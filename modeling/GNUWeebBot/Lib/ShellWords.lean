import Mathlib.Data.List.Basic
import Mathlib.Tactic.Common

/-!
# How a POSIX shell splits a command

Blanks and the characters of operators end a word where they are not quoted. Between
single quotes every byte is itself; outside of them a backslash makes the next byte
itself, but a newline behind it is dropped with it. Double quotes, `$`, backquotes and
comments are not read.
-/

namespace ShellWords

inductive Token
  | word (text : List UInt8)
  | operator (c : UInt8)
deriving DecidableEq

inductive Mode
  | plain
  | quoted -- behind a single quote
  | escape -- behind a backslash
deriving DecidableEq

/-- Space, tab and newline. -/
def isBlank (c : UInt8) : Bool := c == 32 || c == 9 || c == 10

/-- `|`, `&`, `;`, `<`, `>`, `(` and `)`. -/
def isOperator (c : UInt8) : Bool :=
  c == 124 || c == 38 || c == 59 || c == 60 || c == 62 || c == 40 || c == 41

/-- The word before the place where the lexer is, if there is one. -/
def flush (cur : Option (List UInt8)) : List Token := (cur.map Token.word).toList

/-- The tokens of the rest of a command, where `cur` is what has been read of a word. -/
def lex : Mode → (cur : Option (List UInt8)) → List UInt8 → Option (List Token)
  | .plain, cur, [] => some (flush cur)
  | .quoted, _, [] => none
  | .escape, _, [] => none
  | .quoted, cur, c :: rest =>
    if c = 39 then lex .plain cur rest else lex .quoted (some (cur.getD [] ++ [c])) rest
  | .escape, cur, c :: rest =>
    if c = 10 then lex .plain cur rest else lex .plain (some (cur.getD [] ++ [c])) rest
  | .plain, cur, c :: rest =>
    if c = 39 then lex .quoted (some (cur.getD [])) rest
    else if c = 92 then lex .escape cur rest
    else if isBlank c then (lex .plain none rest).map (flush cur ++ ·)
    else if isOperator c then (lex .plain none rest).map (flush cur ++ Token.operator c :: ·)
    else if c = 34 ∨ c = 36 ∨ c = 96 ∨ (c = 35 ∧ cur = none) then none
    else lex .plain (some (cur.getD [] ++ [c])) rest

/-- The tokens of a command. -/
def split (text : List UInt8) : Option (List Token) := lex .plain none text

variable {cur : Option (List UInt8)} {acc rest : List UInt8}

lemma lex_open (cur : Option (List UInt8)) (rest : List UInt8) :
    lex .plain cur (39 :: rest) = lex .quoted (some (cur.getD [])) rest := rfl

lemma lex_close (cur : Option (List UInt8)) (rest : List UInt8) :
    lex .quoted cur (39 :: rest) = lex .plain cur rest := rfl

lemma lex_quoted {c : UInt8} (hc : c ≠ 39) (acc rest : List UInt8) :
    lex .quoted (some acc) (c :: rest) = lex .quoted (some (acc ++ [c])) rest := by
  rw [lex, if_neg hc]
  rfl

lemma lex_backslash {c : UInt8} (hc : c ≠ 10) (acc rest : List UInt8) :
    lex .plain (some acc) (92 :: c :: rest) = lex .plain (some (acc ++ [c])) rest := by
  rw [lex, if_neg (by decide), if_pos rfl, lex, if_neg hc]
  rfl

/-- A byte that goes through single quotes as `esc` writes it. -/
def Quotes (esc : List UInt8) (c : UInt8) : Prop :=
  ∀ acc rest, lex .quoted (some acc) (esc ++ rest) = lex .quoted (some (acc ++ [c])) rest

lemma quotes_self {c : UInt8} (hc : c ≠ 39) : Quotes [c] c := fun acc rest => lex_quoted hc acc rest

/-- A quote leaves the quotes, comes as itself behind a backslash, and enters them again. -/
lemma quotes_quote : Quotes [39, 92, 39, 39] 39 := by
  intro acc rest
  change lex .quoted (some acc) (39 :: 92 :: 39 :: 39 :: rest) = _
  rw [lex_close, lex_backslash (by decide), lex_open]
  rfl

lemma lex_flatMap {esc : UInt8 → List UInt8} {s : List UInt8} (hesc : ∀ c ∈ s, Quotes (esc c) c)
    (acc rest : List UInt8) :
    lex .quoted (some acc) (s.flatMap esc ++ rest) = lex .quoted (some (acc ++ s)) rest := by
  induction s generalizing acc with
  | nil => simp
  | cons c s ih =>
    have hc := hesc c List.mem_cons_self
    have hs := ih (fun d hd => hesc d (List.mem_cons_of_mem c hd))
    rw [List.flatMap_cons, List.append_assoc, hc acc, hs, List.append_assoc, List.singleton_append]

/-- A text between single quotes, each of its bytes written as it goes through them, is
one word. -/
theorem split_quoted {esc : UInt8 → List UInt8} {s : List UInt8} (hesc : ∀ c ∈ s, Quotes (esc c) c) :
    split (39 :: (s.flatMap esc ++ [39])) = some [.word s] := by
  rw [split, lex_open, lex_flatMap hesc, lex_close]
  rfl

end ShellWords
