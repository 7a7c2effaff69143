import GNUWeebBot.Model.HtmlText

/-!
# The INI parser

`ini_parse_file` of inih as `custom.h` configures it: the line buffer is on the stack, values may go on
in the next line, comments may follow a value. A line is the C string that `fgets` leaves in the
buffer, so bytes behind a NUL of the file are not seen.
-/

namespace GNUWeebBot.Inih

def INI_MAX_LINE : ℕ := 200
def MAX_SECTION : ℕ := 50
def MAX_NAME : ℕ := 50

/-- What the calls of `fgets` read, one after the other; `cur` is what the present call has read. -/
def fgetsLines (cur : List UInt8) : List UInt8 → List (List UInt8)
  | [] => if cur = [] then [] else [cur]
  | c :: file =>
    if c = 10 ∨ (cur ++ [c]).length = INI_MAX_LINE - 1 then (cur ++ [c]) :: fgetsLines [] file
    else fgetsLines (cur ++ [c]) file

def lineString (bytes : List UInt8) : List UInt8 := bytes.takeWhile (fun c => c != 0)

def isspace (c : UInt8) : Bool := c == 32 || (9 ≤ c && c ≤ 13)

def rstrip (s : List UInt8) : List UInt8 := (s.reverse.dropWhile isspace).reverse

def lskip (s : List UInt8) : List UInt8 := s.dropWhile isspace

/-- `find_chars_or_comment`: what is before the place it returns, and what starts there. -/
def findCharsOrComment (chars : List UInt8) (wasSpace : Bool) : List UInt8 → List UInt8 × List UInt8
  | [] => ([], [])
  | c :: s =>
    if chars.contains c || (wasSpace && c == 59) then ([], c :: s)
    else
      let found := findCharsOrComment chars (isspace c) s
      (c :: found.1, found.2)

/-- `strncpy0`. -/
def strncpy0 (src : List UInt8) (size : ℕ) : List UInt8 := src.take (size - 1)

/-- What a line is. -/
inductive Line
  | comment
  | more (value : List UInt8) -- the value goes on
  | header (name : List UInt8)
  | pair (name value : List UInt8)
  | bad

/-- The byte order mark at the start of the file. -/
def skipBom (lineno : ℕ) (line : List UInt8) : List UInt8 :=
  if lineno = 1 ∧ line.take 3 = [0xEF, 0xBB, 0xBF] then line.drop 3 else line

def classify (prevName : List UInt8) (lineno : ℕ) (line : List UInt8) : Line :=
  match lskip (rstrip (skipBom lineno line)) with
  | [] => .comment
  | c :: rest =>
    if c = 59 ∨ c = 35 then .comment
    -- `start > line`: something was skipped at the front
    else if prevName ≠ [] ∧ ((skipBom lineno line).length < line.length ∨ (skipBom lineno line).head?.any isspace) then
      .more (c :: rest)
    else if c = 91 then
      match findCharsOrComment [93] false rest with
      | (name, 93 :: _) => .header name
      | _ => .bad
    else
      match findCharsOrComment [61, 58] false (c :: rest) with
      | (name, 61 :: value) | (name, 58 :: value) =>
        .pair (rstrip name) (rstrip (lskip (findCharsOrComment [] false value).1))
      | _ => .bad

structure Call where
  sect : List UInt8
  name : List UInt8
  value : List UInt8
  lineno : ℕ

structure State (U : Type) where
  sect : List UInt8
  prevName : List UInt8
  lineno : ℕ
  error : ℕ
  user : U

variable {U : Type} (handler : U → Call → Bool × U)

/-- `HANDLER`, and the error it may leave. -/
def State.call (st : State U) (name value : List UInt8) : State U :=
  let ret := handler st.user ⟨st.sect, name, value, st.lineno⟩
  { st with user := ret.2, error := if !ret.1 && st.error == 0 then st.lineno else st.error }

/-- One turn of the loop of `ini_parse_stream`. -/
def parseLine (st : State U) (bytes : List UInt8) : State U :=
  let st := { st with lineno := st.lineno + 1 }
  match classify st.prevName st.lineno (lineString bytes) with
  | .comment => st
  | .more value => st.call handler st.prevName value
  | .header name => { st with sect := strncpy0 name MAX_SECTION, prevName := [] }
  | .pair name value => { st with prevName := strncpy0 name MAX_NAME }.call handler name value
  | .bad => { st with error := if st.error = 0 then st.lineno else st.error }

def iniParseFile (file : List UInt8) (user : U) : State U :=
  (fgetsLines [] file).foldl (parseLine handler) ⟨[], [], 0, 0, user⟩

end GNUWeebBot.Inih
