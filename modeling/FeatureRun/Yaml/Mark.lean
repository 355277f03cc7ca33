import FeatureRun.Number.Reading
import FeatureRun.Text.Utf8
import FeatureRun.Yaml.BlockForm
import FeatureRun.Yaml.Token

/-!
Anchors, tags and directives as they are written.
-/
namespace FeatureRun.Yaml
open FeatureRun.Text FeatureRun.Number

/-- What names of anchors, handles and directives are made of. -/
def isNameChar (c : Char) : Bool := (c.toNat < 0x80 && c.isAlphanum) || c == '-' || c == '_'

/-- A name of at least one character. -/
def takeName (c : Cursor) : Except Failure (List Char × Cursor) :=
  let (name, c) := c.span isNameChar
  if name.isEmpty then scannerFault else .ok (name, c)

/-- Fails unless the next character passes the test or there is none. -/
def expectOnly (p : Char → Bool) (c : Cursor) : Except Failure Unit :=
  if c.seesOnly p then .ok () else scannerFault

/-- What may follow the name of an anchor. -/
def endsAnchor (c : Char) : Bool :=
  isGap c || ['?', ':', ',', ']', '}', '%', '@', '\x60'].contains c

/-- The name of an anchor or alias; the place is behind its sign. -/
def anchorName (c : Cursor) : Except Failure (List Char × Cursor) := do
  let (name, c) ← takeName c
  expectOnly endsAnchor c
  .ok (name, c)

/-- What addresses are made of, the percent sign of escapes apart. -/
def isAddressChar (c : Char) : Bool :=
  (c.toNat < 0x80 && c.isAlphanum) ||
    ['-', ';', '/', '?', ':', '@', '&', '=', '+', '$', ',', '_', '.', '!', '~', '*', '\'', '(',
      ')', '[', ']'].contains c

/-- The bytes of a run of percent escapes. -/
def escapedBytes : Nat → Cursor → Except Failure (List UInt8 × Cursor)
  | 0, _ => scannerFault
  | n + 1, c =>
    match c.rest with
    | '%' :: a :: b :: _ =>
      match hexNumber? [a, b] with
      | some byte => do
        let (more, c) ← escapedBytes n (c.skip 3)
        .ok (byte.toUInt8 :: more, c)
      | none => scannerFault
    | '%' :: _ => scannerFault
    | _ => .ok ([], c)

/-- The pieces of an address. -/
def addressFrom : Nat → Cursor → Except Failure (List Char × Cursor)
  | 0, _ => scannerFault
  | n + 1, c => do
    let (piece, c) := c.span isAddressChar
    if c.sees (· == '%') then
      let (bytes, c) ← escapedBytes (c.rest.length + 1) c
      match decodeUtf8 bytes with
      | .ok escaped => do
        let (more, c) ← addressFrom n c
        .ok (piece ++ escaped ++ more, c)
      | .error _ => scannerFault
    else .ok (piece, c)

/-- An address of at least one character. -/
def takeAddress (c : Cursor) : Except Failure (List Char × Cursor) :=
  if c.sees fun x => x == '%' || isAddressChar x then addressFrom (c.rest.length + 1) c
  else scannerFault

/-- A tag handle: an exclamation mark alone before a space, or a name between two of them. -/
def takeHandle (c : Cursor) : Except Failure (List Char × Cursor) :=
  match c.rest with
  | '!' :: ' ' :: _ => .ok (['!'], c.next)
  | '!' :: _ =>
    let (name, c) := c.next.span isNameChar
    if c.sees (· == '!') then .ok ('!' :: name ++ ['!'], c.next) else scannerFault
  | _ => scannerFault

/-- A tag. -/
def takeTag (c : Cursor) : Except Failure (Token × Cursor) := do
  let body := c.next
  let (token, c) ←
    if body.sees (· == '<') then do
      let (address, c) ← takeAddress body.next
      if c.sees (· == '>') then .ok (Token.tag none address, c.next) else scannerFault
    else if body.seesOnly isGap then .ok (Token.tag none ['!'], body)
    else if (body.rest.takeWhile (!isSpaceOrBreak ·)).contains '!' then do
      let (handle, c) ← takeHandle c
      let (suffix, c) ← takeAddress c
      .ok (Token.tag (some handle) suffix, c)
    else do
      let (suffix, c) ← takeAddress body
      .ok (Token.tag (some ['!']) suffix, c)
  expectOnly isSpaceOrBreak c
  .ok (token, c)

/-- A number of a version. -/
def takeVersionNumber (c : Cursor) : Except Failure (Nat × Cursor) :=
  let (digits, c) := c.span Char.isDigit
  if digits.isEmpty then scannerFault
  else do
    let n ← (readInteger 10 digits).mapError fun e => .cast (.conversion e)
    .ok (n.toNat, c)

/-- The value of the directive that names the version. -/
def takeVersion (c : Cursor) : Except Failure (Directive × Cursor) := do
  let (major, c) ← takeVersionNumber c.skipSpaces
  if c.sees (· == '.') then
    let (minor, c) ← takeVersionNumber c.next
    expectOnly isSpaceOrBreak c
    .ok (.version major minor, c)
  else scannerFault

/-- The value of the directive that gives a tag handle its meaning. -/
def takeHandleMeaning (c : Cursor) : Except Failure (Directive × Cursor) := do
  let (name, c) ← takeHandle c.skipSpaces
  if c.sees (· == ' ') then
    let (meaning, c) ← takeAddress c.skipSpaces
    expectOnly isSpaceOrBreak c
    .ok (.handle name meaning, c)
  else scannerFault

/-- A directive; the place is behind its percent sign. -/
def takeDirective (c : Cursor) : Except Failure (Directive × Cursor) := do
  let (name, c) ← takeName c
  expectOnly isSpaceOrBreak c
  let (directive, c) ←
    if name = "YAML".toList then takeVersion c
    else if name = "TAG".toList then takeHandleMeaning c
    else .ok (Directive.other, c.skipWhile (!isBreak ·))
  .ok (directive, ← restOfLine c)

end FeatureRun.Yaml
