import BusBridge.Text.RawText

/-!
# Words of a command line

A word of a command line is a long option, a cluster of short options, the two
dashes after which no options follow, or a plain word.  A single dash is a plain
word.
-/

namespace BusBridge

namespace CommandLine

/-- What a word looks like, before it is known which options there are. -/
inductive Token
  /-- Two dashes and nothing else. -/
  | terminator
  /-- Two dashes and a name, perhaps with a value after an equals sign. -/
  | long (name : RawText) (value? : Option RawText)
  /-- One dash and what follows it. -/
  | short (cluster : List UInt8)
  | plain
deriving DecidableEq, Repr

namespace Token

def dash : UInt8 :=
  0x2D

/-- What a word looks like. -/
def ofWord (word : RawText) : Token :=
  match word.bytes with
  | first :: second :: rest =>
    if first = dash then
      if second = dash then
        if rest.isEmpty then .terminator
        else
          let (name, value?) := RawText.splitAtEquals rest
          .long ⟨name⟩ (value?.map RawText.mk)
      else .short (second :: rest)
    else .plain
  | _ => .plain

/-- What may stand in a number after the first digit: `point` and `letter` tell
whether a decimal point and the letter of an exponent may still come. -/
def isNumberTail (point letter : Bool) : List Char → Bool
  | [] => true
  | character :: rest =>
    if character.isDigit then isNumberTail point letter rest
    else if character = '.' ∧ point then isNumberTail false letter rest
    else if character = 'e' ∧ letter ∧ !rest.isEmpty then isNumberTail false false rest
    else false

/-- A cluster that is a number without its sign: digits, at most one point that is
not the first character, and at most one exponent without a sign. -/
def isNumber (cluster : List UInt8) : Bool :=
  match (RawText.mk cluster).decode? with
  | none => false
  | some text =>
    match text.toList with
    | [] => true
    | first :: rest => first.isDigit && isNumberTail true true rest

end Token

end CommandLine

end BusBridge
