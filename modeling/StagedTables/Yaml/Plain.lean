import StagedTables.Yaml.Cursor

/-! # Plain scalars

Scalars without quotes.  They end before a comment, before the colon of a name, and where the next
line is not indented enough; inside of brackets they end before the marks of bracketed
collections. -/
set_option autoImplicit false
namespace StagedTables.Yaml

/-- Characters with a meaning of their own, which start no plain scalar. -/
def indicators : List Char := ",[]\x7b\x7d#&*!|>'\"%@\x60".toList

/-- Whether a plain scalar starts here.  The marks of items, keys and values start one where no
gap follows, inside of brackets only the first of them. -/
def startsPlain (inBrackets : Bool) (cs : List Char) : Bool :=
  match cs with
  | [] => false
  | c :: rest =>
    if c == '-' then !endsAt isGap rest
    else if c == '?' || c == ':' then !inBrackets && !endsAt isGap rest
    else !isGap c && !indicators.contains c

def endsPlain (inBrackets : Bool) (c : Char) (rest : List Char) : Bool :=
  let isEnd := fun d => isGap d || (inBrackets && ",[]\x7b\x7d".toList.contains d)
  isGap c || (c == ':' && endsAt isEnd rest) ||
    (inBrackets && ",?[]\x7b\x7d".toList.contains c)

def plainRunLength (inBrackets : Bool) : List Char → Nat
  | [] => 0
  | c :: rest => if endsPlain inBrackets c rest then 0 else plainRunLength inBrackets rest + 1

/-- The breaks at the start of a text with blanks around them, and the number of characters that
they take; no breaks when a mark between documents follows one of them. -/
def plainBreaks (atLineStart : Bool) : List Char → Option (List Char) × Nat
  | [] => (some [], 0)
  | c :: rest =>
    if atLineStart && atAnyMark (c :: rest) then (none, 0)
    else if c == ' ' then
      let (breaks, length) := plainBreaks false rest
      (breaks, length + 1)
    else if isBreak c then
      let (breaks, length) := plainBreaks true rest
      (breaks.map (breakText c :: ·), length + 1)
    else (some [], 0)

structure PlainGap where
  /-- What the gap counts for; a gap that counts for nothing ends the scalar. -/
  text : List Char
  hasBreak : Bool

def takePlainGap : Reading PlainGap := do
  let blanks ← Reading.takeWhile (· == ' ')
  match ← Reading.takeBreak? with
  | none => return ⟨blanks, false⟩
  | some first =>
    let (breaks, length) := plainBreaks true (← Reading.rest)
    let _ ← Reading.take length
    return ⟨(breaks.map (foldBreaks first)).getD [], true⟩

/-- A plain scalar, and whether a line ended after it. -/
structure PlainScalar where
  text : List Char
  endsLine : Bool

def takePlainFrom (inBrackets : Bool) (level : Nat) : Nat → PlainGap → Reading PlainScalar
  | 0, gap => return ⟨[], gap.hasBreak⟩
  | fuel + 1, gap => do
    let cs ← Reading.rest
    let length := if cs.head? = some '#' then 0 else plainRunLength inBrackets cs
    if length = 0 then return ⟨[], gap.hasBreak⟩
    let run ← Reading.take length
    let next ← takePlainGap
    let isOver := next.text.isEmpty || (← Reading.rest).head? == some '#' ||
      (!inBrackets && (← Reading.column) < level)
    if isOver then return ⟨gap.text ++ run, next.hasBreak⟩
    let more ← takePlainFrom inBrackets level fuel next
    return { more with text := gap.text ++ run ++ more.text }

/-- A plain scalar whose further lines start at column `level` or after it. -/
def takePlain (inBrackets : Bool) (level : Nat) : Reading PlainScalar := do
  takePlainFrom inBrackets level (← Reading.left) ⟨[], false⟩

end StagedTables.Yaml
