import GNUWeebBot.Lib.DoWhile
import GNUWeebBot.Model.TgEvent

/-!
# Loading a text turn by turn

`tg_event_json_parse` with its loop and the two functions that load a text. The tokener of json-c is
a parameter: its states, and what `json_tokener_parse_ex` makes of one and of the bytes it is given.
-/

namespace GNUWeebBot

open Fill

/-- `enum json_tokener_error`; the other errors have their number. -/
inductive TokenerError
  | jsonTokenerSuccess
  | jsonTokenerContinue
  | failed (jerr : ℕ)
  deriving DecidableEq, Repr

/-- `json_tokener_parse_ex` takes the text and `len`, and is followed by `json_tokener_get_error`. -/
structure Tokener (σ : Type) where
  jsonTokenerNew : Option σ -- `none` without memory
  parseEx : σ → List UInt8 → ℤ → σ × TokenerError × Json

/-- `jerr == json_tokener_continue`. -/
def Asks (r : TokenerError × Json) : Prop := r.1 = .jsonTokenerContinue

instance : DecidablePred Asks := fun _ => inferInstanceAs (Decidable (_ = _))

namespace Loop

def INT_MAX : ℕ := 0x7fffffff

/-- `(int)length`. -/
def toInt (length : ℕ) : ℤ := (length : ℤ).bmod UInt32.size

variable {σ : Type} (tokener : Tokener σ) (fuel : ℕ)

/-- The code and what `*json_obj_p` is then, `json` where it is not set. There is no result where the
loop is not over after `fuel` turns. -/
def tgEventJsonParse (jsonStr : List UInt8) (length : ℕ) (json : Json) : Option (ℤ × Json) :=
  match tokener.jsonTokenerNew with
  | none => some (-ENOMEM, json)
  | some tok =>
    (DoWhile.run (fun tok => tokener.parseEx tok jsonStr (toInt length)) Asks fuel tok).map
      fun (jerr, jsonObj) => (if jerr ≠ .jsonTokenerSuccess then -EINVAL else 0, jsonObj)

/-- The rest of `internal_tg_event_load_str`, for the code and the value of the parse. -/
def decodeParsed (ret : ℤ) (json : Json) : Fill Fault Tgev Unit := do
  if unlikely ret < 0 then exit ret
  parseUpdateId json
  parseMessage json

/-- On a zeroed `struct tgev`. -/
def internalTgEventLoadStr (jsonStr : List UInt8) (length : ℕ) : Option (Except Fault (ℤ × Tgev)) :=
  (tgEventJsonParse tokener fuel jsonStr length .null).map fun (ret, json) => call (decodeParsed ret json) {}

/-- `jsonStr` is the string with its terminator. -/
def tgEventLoadStrLen (jsonStr : List UInt8) (length : ℕ) : Option (Except Fault (ℤ × Tgev)) :=
  internalTgEventLoadStr tokener fuel jsonStr length

def tgEventLoadStr (jsonStr : List UInt8) : Option (Except Fault (ℤ × Tgev)) :=
  internalTgEventLoadStr tokener fuel jsonStr ((cString jsonStr).length + 1)

end Loop

end GNUWeebBot
