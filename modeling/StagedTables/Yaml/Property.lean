import StagedTables.Yaml.Cursor
import StagedTables.Yaml.Token

/-! # Anchors, tags and directives

The marks that name a node or say its kind, and the lines in front of a document. -/
set_option autoImplicit false
namespace StagedTables.Yaml

def isNameChar (c : Char) : Bool :=
  Text.isAsciiLetter c || Text.isAsciiDigit c || c == '-' || c == '_'

def isUriChar (c : Char) : Bool :=
  Text.isAsciiLetter c || Text.isAsciiDigit c || "-;/?:@&=+$,_.!~*'()[]%".toList.contains c

def takeName : Reading String := do
  let name ← Reading.takeWhile isNameChar
  Reading.require !name.isEmpty
  return String.ofList name

def takeAnchorName : Reading String := do
  let _ ← Reading.take 1
  let name ← takeName
  Reading.require (endsAt (fun c => isGap c || "?:,]\x7d%@\x60".toList.contains c)
    (← Reading.rest))
  return name

/-- The bytes of escapes, two hexadecimal digits after a percent sign each. -/
def takeUriBytes : Nat → Reading (List UInt8)
  | 0 => return []
  | fuel + 1 => do
    if (← Reading.rest).head? != some '%' then return []
    let _ ← Reading.take 1
    let digits := (← Reading.take 2).filterMap Numeral.Base.sixteen.digit?
    Reading.require (digits.length == 2)
    return UInt8.ofNat (Numeral.ofDigits 16 digits) :: (← takeUriBytes fuel)

/-- The characters of a tag's name, with escapes read as UTF-8. -/
def takeUriChars : Nat → Reading (List Char)
  | 0 => return []
  | fuel + 1 => do
    let run ← Reading.takeWhile fun c => isUriChar c && c != '%'
    let bytes ← takeUriBytes fuel
    if bytes.isEmpty then return run
    match String.fromUTF8? ⟨bytes.toArray⟩ with
    | none => Reading.fail
    | some escaped => return run ++ escaped.toList ++ (← takeUriChars fuel)

def takeUri : Reading String := do
  let uri ← takeUriChars (← Reading.left)
  Reading.require !uri.isEmpty
  return String.ofList uri

/-- A handle: `!` alone before a blank, or a name between two of them. -/
def takeHandle : Reading String := do
  Reading.require ((← Reading.rest).head? == some '!')
  let start ← Reading.take 1
  if (← Reading.rest).head? = some ' ' then return String.ofList start
  let name ← Reading.takeWhile isNameChar
  Reading.require ((← Reading.rest).head? == some '!')
  let close ← Reading.take 1
  return String.ofList (start ++ name ++ close)

/-- Whether a tag starts with a handle of more than its first mark. -/
def hasHandle (cs : List Char) : Bool :=
  (cs.takeWhile (!isSpaceOrBreak ·)).contains '!'

def takeTag : Reading Token := do
  let after := (← Reading.rest).drop 1
  let token ← if after.head? = some '<' then do
      let _ ← Reading.take 2
      let uri ← takeUri
      Reading.require ((← Reading.rest).head? == some '>')
      let _ ← Reading.take 1
      pure (Token.tag none uri)
    else if endsAt isGap after then do
      let _ ← Reading.take 1
      pure (Token.tag none "!")
    else if hasHandle after then do
      let handle ← takeHandle
      pure (Token.tag (some handle) (← takeUri))
    else do
      let _ ← Reading.take 1
      pure (Token.tag (some "!") (← takeUri))
  Reading.require (endsAt isSpaceOrBreak (← Reading.rest))
  return token

def takeVersionNumber : Reading Nat := do
  let digits ← Reading.takeWhile Text.isAsciiDigit
  Reading.require !digits.isEmpty
  match Numeral.integer? .ten digits with
  | .ok n => return n.toNat
  | .error fault => throw (.conversion (.value (fault.toValueFault .ten "")))

def takeVersion : Reading Directive := do
  let _ ← Reading.takeWhile (· == ' ')
  let major ← takeVersionNumber
  Reading.require ((← Reading.rest).head? == some '.')
  let _ ← Reading.take 1
  let minor ← takeVersionNumber
  Reading.require (endsAt isSpaceOrBreak (← Reading.rest))
  return .version major minor

def takeTagHandle : Reading Directive := do
  let _ ← Reading.takeWhile (· == ' ')
  let handle ← takeHandle
  Reading.require ((← Reading.rest).head? == some ' ')
  let _ ← Reading.takeWhile (· == ' ')
  let uri ← takeUri
  Reading.require (endsAt isSpaceOrBreak (← Reading.rest))
  return .tagHandle handle uri

def takeDirective : Reading Directive := do
  let _ ← Reading.take 1
  let name ← takeName
  Reading.require (endsAt isSpaceOrBreak (← Reading.rest))
  let directive ← if name = "YAML" then takeVersion
    else if name = "TAG" then takeTagHandle
    else do
      let _ ← Reading.takeWhile (!isBreak ·)
      pure .other
  Reading.takeLineEnd
  return directive

end StagedTables.Yaml
