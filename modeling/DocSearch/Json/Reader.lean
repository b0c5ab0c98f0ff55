import DocSearch.Json.StringReader

/-!
# Reading a JSON text

The grammar of RFC 8259 over bytes, with at most 127 brackets open at a time and nothing but
blanks around the value. Repeated keys of an object are merged: the first place, the last value.
The first fault on the way through the text is the one reported.
-/
namespace DocSearch.Json

/-- The most brackets that may be open at a time. -/
def deepestNesting : Nat := 127

def isBlank (b : UInt8) : Bool :=
  b == 0x20 || b == 0x09 || b == 0x0A || b == 0x0D

def skipBlanks (bytes : Bytes) : Bytes := bytes.dropWhile isBlank

/-- The rest of a literal word. -/
def wordRest : Bytes → Bytes → Except Fault Bytes
  | [], bytes => .ok bytes
  | _ :: _, [] => fail .endInValue []
  | expected :: more, b :: rest =>
    if b = expected then wordRest more rest else fail .expectedWord rest

/-- The items after the first one, up to the closing bracket. Every item takes a byte, so `fuel`
as large as the text suffices. -/
def moreItems (item : Reader Json) : Nat → Reader (List Json)
  | 0, _ => fail .endInList []
  | fuel + 1, bytes =>
    match skipBlanks bytes with
    | [] => fail .endInList []
    | b :: rest =>
      if b = 0x5D then .ok ([], rest)
      else if b = 0x2C then
        match skipBlanks rest with
        | [] => fail .endInValue []
        | c :: rest' =>
          if c = 0x5D then fail .trailingComma rest'
          else do
            let (value, left) ← item (c :: rest')
            let (values, left) ← moreItems item fuel left
            return (value :: values, left)
      else fail .expectedListCommaOrEnd rest

/-- An array after its opening bracket. -/
def items (item : Reader Json) : Reader (List Json) := fun bytes =>
  match skipBlanks bytes with
  | [] => fail .endInList []
  | b :: rest =>
    if b = 0x5D then .ok ([], rest)
    else do
      let (value, left) ← item (b :: rest)
      let (values, left) ← moreItems item left.length left
      return (value :: values, left)

/-- A member: its key, a colon, its value. `closed` is the fault of a brace in place of the
key. -/
def member (item : Reader Json) (closed : ReadError.Cause) : Reader (String × Json)
  | [] => fail .endInValue []
  | b :: rest =>
    if b = 0x22 then do
      let (key, left) ← StringReader.string rest
      match skipBlanks left with
      | [] => fail .endInObject []
      | c :: rest =>
        if c = 0x3A then do
          let (value, left) ← item rest
          return ((key, value), left)
        else fail .expectedColon rest
    else if b = 0x7D then fail closed rest
    else fail .keyNotString rest

/-- The members after the first one, up to the closing brace, merged into `seen`. -/
def moreMembers (item : Reader Json) : Nat → Members → Reader Members
  | 0, _, _ => fail .endInObject []
  | fuel + 1, seen, bytes =>
    match skipBlanks bytes with
    | [] => fail .endInObject []
    | b :: rest =>
      if b = 0x7D then .ok (seen, rest)
      else if b = 0x2C then do
        let ((key, value), left) ← member item .trailingComma (skipBlanks rest)
        moreMembers item fuel (Members.insert key value seen) left
      else fail .expectedObjectCommaOrEnd rest

/-- An object after its opening brace. -/
def members (item : Reader Json) : Reader Members := fun bytes =>
  match skipBlanks bytes with
  | [] => fail .endInObject []
  | b :: rest =>
    if b = 0x7D then .ok ([], rest)
    else do
      let (first, left) ← member item .keyNotString (b :: rest)
      moreMembers item left.length [first] left

/-- A value, given the reader of the values inside it, or none if no bracket may be opened. -/
def valueWith (inner : Option (Reader Json)) : Reader Json := fun bytes =>
  match skipBlanks bytes with
  | [] => fail .endInValue []
  | b :: rest =>
    if b = 0x6E then return (.null, ← wordRest [0x75, 0x6C, 0x6C] rest)
    else if b = 0x74 then return (.bool true, ← wordRest [0x72, 0x75, 0x65] rest)
    else if b = 0x66 then return (.bool false, ← wordRest [0x61, 0x6C, 0x73, 0x65] rest)
    else if b = 0x2D then do
      let (n, left) ← NumberReader.unsigned true rest
      return (.number n, left)
    else if (NumberReader.digit? b).isSome then do
      let (n, left) ← NumberReader.unsigned false (b :: rest)
      return (.number n, left)
    else if b = 0x22 then do
      let (s, left) ← StringReader.string rest
      return (.string s, left)
    else if b = 0x5B then
      match inner with
      | none => fail .nestedTooDeep rest
      | some item => do
        let (values, left) ← items item rest
        return (.array values, left)
    else if b = 0x7B then
      match inner with
      | none => fail .nestedTooDeep rest
      | some item => do
        let (pairs, left) ← members item rest
        return (.object pairs, left)
    else fail .expectedValue rest

/-- A value inside which at most `depth` brackets may be open at a time. -/
def value : Nat → Reader Json
  | 0 => valueWith none
  | depth + 1 => valueWith (some (value depth))

/-- The value of a whole text, or the first fault in it. -/
def readText (text : Bytes) : Except Fault Json := do
  let (result, left) ← value deepestNesting text
  match skipBlanks left with
  | [] => return result
  | _ :: rest => fail .trailingCharacters rest

/-- The value of a whole text, or the error to report. -/
def read (text : Bytes) : Except ReadError Json :=
  (readText text).mapError (Fault.locate text)

end DocSearch.Json
