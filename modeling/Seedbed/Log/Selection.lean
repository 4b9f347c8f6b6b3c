import Seedbed.Log
import Seedbed.Text.Numeral
import Seedbed.Text.Split

/-!
# Selecting lines of the log

A selection is written as directives with commas between them. A directive names the parts of the program that it concerns by
the beginning of their names, and the level from which on their lines are shown; without a name it concerns all parts, and
without a level all lines are shown. Between brackets a directive may ask for more: for lines that belong to a named piece of
work, of which there are none here, and in braces for lines that have a field of a given name, which is `message` for all of
them. For each part the directive with the longest name counts, of those with the same name one that asks for a field, and of two
alike the later one; a part that no directive concerns shows nothing, and directives that cannot be read are passed over. Where
nothing is selected at all, the lines of the highest level are shown.
-/

namespace Seedbed

/-- The level from which on lines are shown, none if they are not. -/
abbrev Threshold := Option Level

/-- Which lines are shown of the parts whose names begin in the given way, all of them or those with a given field. -/
structure Directive where
  target : List Char
  field : Option (List Char)
  threshold : Threshold
  deriving DecidableEq, Repr

/-- Directives in their order. -/
structure Selection where
  directives : List Directive
  deriving DecidableEq, Repr

namespace Selection

/-- An ASCII letter in lower case. -/
def lower (c : Char) : Char := if 'A' ≤ c ∧ c ≤ 'Z' then Char.ofNat (c.toNat + 32) else c

/-- The threshold of a number. -/
def numbered? : Nat → Option Threshold
  | 0 => some none
  | 1 => some (some .error)
  | 2 => some (some .warn)
  | 3 => some (some .info)
  | 4 => some (some .debug)
  | 5 => some (some .trace)
  | _ => none

/-- The threshold of a word, in any case. -/
def named? (word : List Char) : Option Threshold :=
  match String.ofList (word.map lower) with
  | "off" => some none
  | "error" => some (some .error)
  | "warn" => some (some .warn)
  | "info" => some (some .info)
  | "debug" => some (some .debug)
  | "trace" => some (some .trace)
  | _ => none

/-- The threshold of a word or a numeral. -/
def readThreshold (word : List Char) : Option Threshold :=
  match Text.readNatural 18446744073709551615 word with
  | .ok n => numbered? n
  | .error _ => named? word

/-- Whether a directive may begin with a character. -/
def mayBegin (c : Char) : Bool :=
  ('a' ≤ c && c ≤ 'z') || ('A' ≤ c && c ≤ 'Z') || ('0' ≤ c && c ≤ '9') || c == '_' || c == ':' || c == '-'

/-- The end of a directive from the equals sign on, which may be missing, as may the level behind it. -/
def readEnd (target : List Char) (field : Option (List Char)) : List Char → Option Directive
  | [] => some ⟨target, field, some .trace⟩
  | ['='] => some ⟨target, field, some .trace⟩
  | '=' :: word => (readThreshold word).map (fun threshold => ⟨target, field, threshold⟩)
  | _ => none

/-- The part of a directive behind an opening bracket. One that names a piece of work, or asks for a field with a given value,
concerns no line. -/
def readBracket (target text : List Char) : Option Directive :=
  match text with
  | '\x7b' :: rest =>
    let field := rest.takeWhile (· ≠ '\x7d')
    match rest.dropWhile (· ≠ '\x7d') with
    | '\x7d' :: ']' :: rest => if field = [] ∨ '=' ∈ field then none else readEnd target (some field) rest
    | _ => none
  | _ => none

/-- The directive of a text, if it is one. -/
def readDirective (text : List Char) : Option Directive :=
  match text with
  | [] => none
  | '[' :: rest => readBracket [] rest
  | c :: _ =>
    if !mayBegin c then none
    else
      let target := text.takeWhile (fun c => c ≠ '=' ∧ c ≠ '[')
      match text.dropWhile (fun c => c ≠ '=' ∧ c ≠ '[') with
      | [] =>
        match readThreshold text with
        | some threshold => some ⟨[], none, threshold⟩
        | none => some ⟨target, none, some .trace⟩
      | '[' :: rest => readBracket target rest
      | rest => readEnd target none rest

/-- The selection of a text. -/
def read (text : String) : Selection := ⟨(Text.splitAll ',' text.toList).filterMap readDirective⟩

/-- The name of the field that every line has. -/
def messageField : List Char := "message".toList

end Selection

namespace Directive

/-- Whether a directive concerns the lines of a part. -/
def concerns (d : Directive) (source : Source) : Bool :=
  d.target.isPrefixOf source.target.toList && (d.field.getD Selection.messageField == Selection.messageField)

/-- Whether a directive is less specific than another one: its name is shorter, or it is as long and asks for no field though the
other one does. -/
def isBelow (d other : Directive) : Bool :=
  d.target.length < other.target.length ||
    (d.target.length == other.target.length && d.field.isNone && other.field.isSome)

end Directive

namespace Selection

/-- The better of the directive chosen so far and another one: the more specific one, or else the later one. -/
def better (chosen : Option Directive) (d : Directive) : Option Directive :=
  match chosen with
  | none => some d
  | some c => if d.isBelow c then some c else some d

/-- The threshold of a part. -/
def threshold (s : Selection) (source : Source) : Threshold :=
  if s.directives.isEmpty then some .error
  else ((s.directives.filter (fun d => d.concerns source)).foldl better none).bind Directive.threshold

/-- Whether a line is shown. -/
def shows (s : Selection) (line : LogLine) : Bool :=
  match s.threshold line.source with
  | none => false
  | some level => level.rank ≤ line.level.rank

/-- The lines that are shown. -/
def shown (s : Selection) (lines : List LogLine) : List LogLine := lines.filter s.shows

end Selection

end Seedbed
