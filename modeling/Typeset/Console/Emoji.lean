import Typeset.Console.Emoji.Names
import Typeset.Text.Blank
import Typeset.Text.Digit

/-!
# Pictures by name

Some texts on a console may name pictures: `:smile:` stands for a smiling face. The name is read
without regard to case, and may end in `-emoji` or `-text`, which asks for the coloured or the plain
form of the picture. What is no name of a picture stays as it is.

## Main definitions

* `Console.Emoji.picture?`: the picture with a name
* `Console.Emoji.substitute`: a text with its pictures in place of their names
-/

namespace Typeset.Console.Emoji

/-- The entry that a word of the listing holds. -/
def entry? (w : Text) : Option (Text × Text) :=
  match Text.breakOn? ['='] w with
  | none => none
  | some (name, codes) => some (name, (Text.splitOn '.' codes).map codePoint)
where
  /-- The character with a code point in hexadecimal digits. -/
  codePoint (digits : Text) : Char := Char.ofNat ((Text.hexNumber? digits).getD 0)

/-- The names of pictures, in lower case, with their pictures. -/
def entries : List (Text × Text) := (Text.words (Text.ofString listing)).filterMap entry?

/-- A character of a name in lower case. Of letters beyond ASCII the names hold only those of
western Europe; the signs for the kelvin and the ångström are letters too. -/
def lowerChar (c : Char) : Char :=
  let n := c.toNat
  if n = 0x212A then 'k'
  else if n = 0x212B then 'å'
  else if 0xC0 ≤ n && n ≤ 0xDE && n != 0xD7 then Char.ofNat (n + 0x20)
  else c.toLower

/-- The picture with a name. -/
def picture? (name : Text) : Option Text := entries.lookup (name.map lowerChar)

/-- The endings of names that ask for a form of a picture, with the characters that select it. -/
def forms : List (Text × Text) := [("-emoji".toList, ['\ufe0f']), ("-text".toList, ['\ufe0e'])]

/-- The picture for what stands between two colons. -/
def read? (code : Text) : Option Text :=
  match forms.find? fun (ending, _) => Text.endsWith ending code with
  | some (ending, form) => (picture? (code.take (code.length - ending.length))).map (· ++ form)
  | none => picture? code

/-- What stands between a colon, already read, and the next one, and the text behind that. There
are no blanks in a name. -/
def named? (t : Text) : Option (Text × Text) :=
  match Text.breakOn? [':'] t with
  | some (code, rest) => if code.any Text.isBlank then none else some (code, rest)
  | none => none

/-- The text with pictures in place of names; `fuel` bounds the number of steps. -/
def substituteWithin : (fuel : Nat) → Text → Text
  | 0, t => t
  | _ + 1, [] => []
  | fuel + 1, c :: t =>
    if c = ':' then
      match named? t with
      | some (code, rest) =>
        (read? code).getD ([':'] ++ code ++ [':']) ++ substituteWithin fuel rest
      | none => ':' :: substituteWithin fuel t
    else c :: substituteWithin fuel t

/-- The text with pictures in place of their names. -/
def substitute (t : Text) : Text := substituteWithin t.length t

end Typeset.Console.Emoji
