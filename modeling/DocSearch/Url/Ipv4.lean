import DocSearch.Text.Percent

/-!
# IPv4 addresses in hosts

A host whose last label is a number has to be an IPv4 address of one to four numbers, each in
decimal, octal or hexadecimal. The last number fills the bytes that are left.
-/
namespace DocSearch.Ipv4

/-- The digits of a numeral and their base: hexadecimal behind 0x, octal behind 0. -/
def base (text : List Char) : Nat × List Char :=
  match text with
  | '0' :: 'x' :: digits => (16, digits)
  | '0' :: 'X' :: digits => (16, digits)
  | '0' :: d :: digits => (8, d :: digits)
  | digits => (10, digits)

/-- The value of digits in a base, added to what was read before. -/
def digitsValue? (base : Nat) (n : Nat) : List Char → Option Nat
  | [] => some n
  | c :: rest => do
    let d ← Percent.hexValue? c
    if d < base then digitsValue? base (n * base + d) rest else none

/-- The value of a numeral; no digits behind 0x are a zero. -/
def number? (text : List Char) : Option Nat :=
  if text.isEmpty then none
  else
    let (base, digits) := base text
    digitsValue? base 0 digits

/-- The labels of a host. -/
def labels (host : List Char) : List (List Char) := host.splitOn '.'

/-- The labels without an empty one at the end. -/
def numberedLabels (host : List Char) : List (List Char) :=
  let parts := labels host
  if parts.getLast? = some [] ∧ 1 < parts.length then parts.dropLast else parts

/-- Whether the last label, an empty one at the end apart, reads as a number. -/
def endsInNumber (host : List Char) : Bool :=
  match (numberedLabels host).getLast? with
  | none => false
  | some last => (!last.isEmpty && last.all Char.isDigit) || (number? last).isSome

/-- The value of all labels, each byte wide but the last, which takes the rest of the four. -/
def combine? (numbers : List Nat) : Option UInt32 :=
  let last := numbers.getLastD 0
  let bytes := numbers.dropLast
  let room := 4 - bytes.length
  if bytes.all (· ≤ 255) && last < Nat.pow 256 room then
    some (UInt32.ofNat (bytes.foldl (fun n b => n * 256 + b) 0 * Nat.pow 256 room + last))
  else none

/-- The address a host stands for. -/
def parse? (host : List Char) : Option UInt32 := do
  let parts := numberedLabels host
  if 4 < parts.length then none
  else combine? (← parts.mapM number?)

/-- The address in dotted decimal. -/
def text (address : UInt32) : List Char :=
  let n := address.toNat
  List.intercalate ['.']
    ([n / 0x1000000, n / 0x10000 % 256, n / 0x100 % 256, n % 256].map (Nat.toDigits 10))

end DocSearch.Ipv4
