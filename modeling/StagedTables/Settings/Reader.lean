import StagedTables.Datum
import StagedTables.Settings
import StagedTables.Settings.Checked
import StagedTables.Text.Surrogate
import StagedTables.Value.Text

/-! # Reading settings

A validator of settings, for programs that are run; those that are reasoned about take any.
Settings are read from a mapping.  A setting that is absent has its default, and names that are no
settings are passed over.  A number may be given as a text, an integer as a number without a
fraction, and a truth value counts as one or zero; a text must be given as such.  Bytes count as
the text that they encode. -/
set_option autoImplicit false
namespace StagedTables.Settings

open Text

def isWhiteSpace (c : Char) : Bool := isBlank c && !(0x1C ≤ c.toNat && c.toNat ≤ 0x1F)

/-- Leaves one of the zeros, and of the underscores after them, that start a numeral; none of them
when a digit or a minus sign follows.  `previous` is the character before. -/
def dropZeros? (previous : Char) : List Char → Option (List Char)
  | [] => some [previous]
  | c :: rest =>
    if c == '0' || c == '_' then dropZeros? c rest
    else if isAsciiDigit c || c == '-' then some (c :: rest)
    else if c == '.' then some (previous :: c :: rest)
    else none

def withoutZeros? : List Char → Option (List Char)
  | [] => none
  | c :: rest =>
    if c == '0' then dropZeros? c rest
    else if isAsciiDigit c || c == '-' then some (c :: rest)
    else none

def withoutFraction (cs : List Char) : List Char :=
  let whole := cs.takeWhile (· != '.')
  let fraction := cs.drop (whole.length + 1)
  if !fraction.isEmpty && fraction.all (· == '0') then whole else cs

/-- A numeral without its underscores, if each of them stands by itself between others. -/
def withoutUnderscores (cs : List Char) : List Char :=
  if Numeral.SingleUnderscores cs then cs.filter (· != '_') else cs

def plainInteger (cs : List Char) : Checked Int :=
  let (negative, digits) := match cs with
    | '-' :: digits => (true, digits)
    | digits => (false, digits)
  let run := digits.takeWhile isAsciiDigit
  if digits.head? ≠ some '0' ∧
      Numeral.integerDigitLimit < cs.length - digits.length + run.length then
    .refused .integerTooLong
  else if run = [] ∨ run ≠ digits ∨ (digits.head? = some '0' ∧ digits ≠ ['0']) then
    .refused .integerText
  else
    let n := Nat.ofDigitChars 10 digits 0
    .valid (if negative then -(n : Int) else n)

def unsignedNumeral? (s : String) : Option (List Char) :=
  match trimBy isWhiteSpace s.toList with
  | '+' :: '-' :: _ => none
  | '+' :: cs => some cs
  | cs => some cs

def integerOfText (s : String) : Checked Int :=
  match (unsignedNumeral? s).bind withoutZeros? with
  | none => .refused .integerText
  | some cs => plainInteger (withoutUnderscores (withoutFraction cs))

/-- `2^63`: doubles from this magnitude on do not count as integers. -/
def integerDoubleLimit : Int := 9223372036854775808

def integerOfDouble (x : Double) : Checked Int :=
  match x.truncate?, x.toInt? with
  | none, _ => .refused .infinite
  | some _, none => .refused .fraction
  | some _, some n => if n.natAbs < integerDoubleLimit then .valid n else .refused .integerTooLong

def ofBytes {α : Type} (otherwise : IssueKind) (read : String → Checked α) (data : List UInt8) :
    Checked α :=
  match String.fromUTF8? ⟨data.toArray⟩ with
  | some s => read s
  | none => .refused otherwise

/-- A text that holds no lone half of a surrogate pair. -/
def encodable {α : Type} (read : String → Checked α) (s : String) : Checked α :=
  if isEncodable s then read s else .refused .notUnicode

def readInteger : Document → Checked Int
  | .scalar (.integer n) => .valid n
  | .scalar (.boolean b) => .valid (if b then 1 else 0)
  | .scalar (.number x) => integerOfDouble x
  | .scalar (.text s) => encodable integerOfText s
  | .scalar (.bytes data) => ofBytes .integerText integerOfText data
  | _ => .refused .notAnInteger

/-- A text that is no numeral may be one without its underscores, but then without any white space
around it. -/
def doubleOfText (s : String) : Checked Double :=
  match Numeral.bareDouble? (trimBy isWhiteSpace s.toList) with
  | some x => .valid x
  | none => match Numeral.bareDouble? (withoutUnderscores s.toList) with
    | some x => .valid x
    | none => .refused .doubleText

def doubleOfInteger (n : Int) : Checked Double :=
  match Double.ofInt? n with
  | some x => .valid x
  | none => .refused .notADouble

def readDouble : Document → Checked Double
  | .scalar (.integer n) => doubleOfInteger n
  | .scalar (.boolean b) => doubleOfInteger (if b then 1 else 0)
  | .scalar (.number x) => .valid x
  | .scalar (.text s) => encodable doubleOfText s
  | .scalar (.bytes data) => ofBytes .doubleText doubleOfText data
  | _ => .refused .notADouble

def readText : Document → Checked String
  | .scalar (.text s) => encodable .valid s
  | .scalar (.bytes data) => ofBytes .notUnicode .valid data
  | _ => .refused .notAText

def readChoice {α : Type} (ofName? : String → Option α) (datum : Document) : Checked α :=
  match (readText datum).toOption.bind ofName? with
  | some choice => .valid choice
  | none => .refused .notAChoice

def readOptional {α : Type} (read : Document → Checked α) (datum : Document) : Checked (Option α) :=
  match datum with
  | .scalar .null => .valid none
  | datum => some <$> read datum

def readCount (datum : Document) : Checked Count :=
  (readInteger datum).next fun n =>
    if positive : 0 < n.toNat then .valid ⟨n.toNat, positive⟩ else .refused .belowMinimum

def readPageSize (datum : Document) : Checked PageSize :=
  (readCount datum).next fun n =>
    if small : n.1 ≤ pageSizeLimit then .valid ⟨n.1, n.2, small⟩ else .refused .aboveMaximum

/-- A delay is not negative, and it is a number. -/
def readDelay (datum : Document) : Checked Double :=
  (readDouble datum).next fun x =>
    if x = .nan ∨ (x.isNegative ∧ ¬ x.isZero) then .refused .belowMinimum else .valid x

def shownName : Scalar → String
  | .null => "None"
  | .boolean b => if b then "1" else "0"
  | .integer n => toString n
  | .number x => x.text
  | .text s => s
  | .bytes data => Text.quotedBytes data
  | .date date => date.quoted
  | .dateTime dateTime => match dateTime.quoted with
    | .gives shown => shown
    | .raises error => error.message

/-- The mark of a place that is a name and not its value. -/
def nameMark : String := "[key]"

def readTexts (entries : Datum.Members Scalar) : Checked (Fields String) :=
  match entries with
  | [] => .valid []
  | (name, datum) :: rest =>
    let shown := shownName name.toScalar
    (fun name text texts => (name, text) :: texts) <$>
      ((readText (.scalar name.toScalar)).under nameMark).under shown <*>
      (readText datum).under shown <*> readTexts rest

def readLevels (datum : Document) : Checked (Fields String) :=
  match datum with
  | .object entries => Fields.ofList <$> readTexts entries
  | _ => .refused .notAMapping

def setting {α : Type} (fields : Datum.Members Scalar) (name : String) (default : α)
    (read : Document → Checked α) : Checked α :=
  match Fields.get? fields (.text name) with
  | some datum => (read datum).under name
  | none => .valid default

def readSection {α : Type} (read : Datum.Members Scalar → Checked α) (datum : Document) :
    Checked α :=
  match datum with
  | .object fields => read fields
  | _ => .refused .notASection

def readQuery (fields : Datum.Members Scalar) : Checked PageSize :=
  setting fields pageSizeName defaultPageSize readPageSize

def readProvisioning (fields : Datum.Members Scalar) : Checked Provisioning :=
  let usual : Provisioning := {}
  Provisioning.mk <$> setting fields retryDelayName usual.retryDelay readDelay
    <*> setting fields maxAttemptsName usual.maxAttempts readCount

def readLogging (fields : Datum.Members Scalar) : Checked LoggingSettings :=
  let usual : LoggingSettings := {}
  LoggingSettings.mk <$> setting fields levelName usual.level (readChoice NamedLevel.ofName?)
    <*> setting fields formatName usual.format readText
    <*> setting fields fileName usual.file (readOptional readText)
    <*> setting fields rotationSizeName usual.rotationSize readText
    <*> setting fields rotationCountName usual.rotationCount readInteger
    <*> setting fields loggerLevelsName usual.loggerLevels (readOptional readLevels)

def readFields (fields : Datum.Members Scalar) : Checked Settings :=
  let usual : Settings := {}
  Settings.mk <$> setting fields prodConnectionName usual.prodConnection (readOptional readText)
    <*> setting fields devConnectionName usual.devConnection (readOptional readText)
    <*> setting fields stageName usual.stage (readOptional (readChoice Stage.ofName?))
    <*> setting fields queryName usual.pageSize (readSection readQuery)
    <*> setting fields provisioningName usual.provisioning (readSection readProvisioning)
    <*> setting fields loggingName usual.logging (readSection readLogging)

def read (rule : Settings → Option SettingsRule) (fields : Datum.Members Scalar) :
    Checked Settings :=
  (readFields fields).next fun settings =>
    match rule settings with
    | some broken => .refused (.rule broken)
    | none => .valid settings

end StagedTables.Settings
