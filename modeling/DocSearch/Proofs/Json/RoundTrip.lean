import DocSearch.Proofs.Json.Grammar
import DocSearch.Proofs.Json.Members
import DocSearch.Proofs.Json.Scalars

/-!
# Values read back from their texts

The compact text of a value is a list of tokens, and blanks between them make no difference: a
reader that is given enough depth reads the value back, members in their order. That goes for
values without doubles, and without a key that stands twice in an object.
-/
namespace DocSearch.Json

open Grammar Utf8

/-! ## Tokens -/

mutual

/-- The tokens of the compact text of a value. -/
def tokens : Json → List (List Char)
  | .null => [Json.null.text]
  | .bool b => [(Json.bool b).text]
  | .number n => [n.text]
  | .string s => [quotedText s]
  | .array [] => [['['], [']']]
  | .array (v :: rest) => ['['] :: (v.tokens ++ itemsTokens rest)
  | .object [] => [['{'], ['}']]
  | .object ((k, v) :: rest) =>
    ['{'] :: quotedText k :: [':'] :: (v.tokens ++ membersTokens rest)

/-- The tokens behind the first item. -/
def itemsTokens : List Json → List (List Char)
  | [] => [[']']]
  | v :: rest => [','] :: (v.tokens ++ itemsTokens rest)

/-- The tokens behind the first member. -/
def membersTokens : List (String × Json) → List (List Char)
  | [] => [['}']]
  | (k, v) :: rest => [','] :: quotedText k :: [':'] :: (v.tokens ++ membersTokens rest)

end

mutual

/-- The tokens make up the compact text. -/
theorem flatten_tokens : ∀ v : Json, v.tokens.flatten = v.text
  | .null => rfl
  | .bool true => rfl
  | .bool false => rfl
  | .number n => by simp [tokens, text]
  | .string s => by simp [tokens, text]
  | .array [] => rfl
  | .array (v :: rest) => by
    simp [tokens, text, flatten_tokens v, flatten_itemsTokens rest]
  | .object [] => rfl
  | .object ((k, v) :: rest) => by
    simp [tokens, text, flatten_tokens v, flatten_membersTokens rest]

theorem flatten_itemsTokens : ∀ rest : List Json, (itemsTokens rest).flatten = itemsText rest
  | [] => rfl
  | v :: rest => by simp [itemsTokens, itemsText, flatten_tokens v, flatten_itemsTokens rest]

theorem flatten_membersTokens :
    ∀ rest : List (String × Json), (membersTokens rest).flatten = membersText rest
  | [] => rfl
  | (k, v) :: rest => by
    simp [membersTokens, membersText, flatten_tokens v, flatten_membersTokens rest]

end

/-- Bytes that spell tokens, with any number of blanks before, between and after them. -/
inductive Spread : List (List Char) → Bytes → Prop
  | nil {bytes : Bytes} (blanks : Blanks bytes []) : Spread [] bytes
  | cons {token : List Char} {later : List (List Char)} {bytes rest : Bytes}
      (blanks : Blanks bytes (encodeChars token ++ rest)) (onward : Spread later rest) :
      Spread (token :: later) bytes

/-- A value without doubles and without repeated keys, in which at most so many brackets are open
at a time. -/
inductive IsPlain : Nat → Json → Prop
  | null {depth : Nat} : IsPlain depth .null
  | bool {depth : Nat} (b : Bool) : IsPlain depth (.bool b)
  | integer {depth : Nat} (n : Int) (inRange : IsWord n) :
      IsPlain depth (.number (.integer n inRange))
  | string {depth : Nat} (s : String) : IsPlain depth (.string s)
  | array {depth : Nat} {items : List Json} (plain : ∀ v ∈ items, IsPlain depth v) :
      IsPlain (depth + 1) (.array items)
  | object {depth : Nat} {members : Members} (distinct : (Members.keys members).Nodup)
      (plain : ∀ m ∈ members, IsPlain depth m.2) : IsPlain (depth + 1) (.object members)

/-! ## Blanks are passed over -/

theorem skipBlanks_of_blanks {a b : Bytes} (blanks : Blanks a b) : skipBlanks a = skipBlanks b := by
  induction blanks with
  | none => rfl
  | more blank _ ih =>
    rw [← ih, skipBlanks, skipBlanks, List.dropWhile_cons_of_pos ((isBlank_eq_true_iff _).mpr blank)]

theorem skipBlanks_cons {b : UInt8} (dense : isBlank b = false) (rest : Bytes) :
    skipBlanks (b :: rest) = b :: rest :=
  List.dropWhile_cons_of_neg (by simp [dense])

/-! ## Readers of values -/

/-- What may follow a value: nothing, or a token that does not go on with it. -/
def Closes (later : List (List Char)) : Prop :=
  ∀ token ∈ later.head?, token ∈ [[','], [']'], ['}']]

/-- The first token of the value starts with a byte that is neither a blank nor a bracket that
closes an array. -/
def Opens (v : Json) : Prop :=
  ∃ token more b tail, v.tokens = token :: more ∧ encodeChars token = b :: tail ∧
    isBlank b = false ∧ b ≠ 0x5D

/-- The reader takes the tokens of the value, wherever they are spread over the bytes, and gives
the value. -/
structure Reads (item : Reader Json) (v : Json) : Prop where
  opens : Opens v
  reads : ∀ later bytes, Closes later → Spread (v.tokens ++ later) bytes →
    ∃ left, item bytes = .ok (v, left) ∧ Spread later left

theorem Spread.skip {token : List Char} {later : List (List Char)} {bytes tail : Bytes} {b : UInt8}
    (spread : Spread (token :: later) bytes) (first : encodeChars token = b :: tail)
    (dense : isBlank b = false) :
    ∃ rest, skipBlanks bytes = b :: (tail ++ rest) ∧ Spread later rest := by
  cases spread with
  | @cons _ _ _ rest blanks onward =>
    refine ⟨rest, ?_, onward⟩
    rw [skipBlanks_of_blanks blanks, first, List.cons_append, skipBlanks_cons dense]

theorem length_le_of_blanks {a b : Bytes} (blanks : Blanks a b) : b.length ≤ a.length := by
  induction blanks with
  | none => exact Nat.le_refl _
  | more _ _ ih => exact Nat.le_succ_of_le ih

theorem Spread.drop {front later : List (List Char)} {bytes : Bytes}
    (spread : Spread (front ++ later) bytes) :
    ∃ rest, rest.length ≤ bytes.length ∧ Spread later rest := by
  induction front generalizing bytes with
  | nil => exact ⟨bytes, Nat.le_refl _, spread⟩
  | cons token front ih =>
    cases spread with
    | cons blanks onward =>
      obtain ⟨rest, shorter, spread⟩ := ih onward
      have bound := length_le_of_blanks blanks
      rw [List.length_append] at bound
      exact ⟨rest, by omega, spread⟩

/-- A number is over where a value may be. -/
theorem Spread.endsNumber {later : List (List Char)} {left : Bytes} (spread : Spread later left)
    (closes : Closes later) : NumberReader.EndsNumber left := by
  have blank : [0x20, 0x09, 0x0A, 0x0D].all (fun b => NumberReader.digit? b = none ∧ b ≠ 0x2E ∧
      b ≠ 0x65 ∧ b ≠ 0x45) = true := by decide
  have first {b : Bytes} (blanks : Blanks left b) (ends : NumberReader.EndsNumber b) :
      NumberReader.EndsNumber left := by
    cases blanks with
    | none => exact ends
    | more found =>
      rintro _ ⟨⟩
      exact of_decide_eq_true (List.all_eq_true.mp blank _ found)
  cases spread with
  | nil blanks => exact first blanks nofun
  | @cons token _ _ rest blanks onward =>
    refine first blanks ?_
    have closing := closes token rfl
    simp only [List.mem_cons, List.not_mem_nil, or_false] at closing
    obtain rfl | rfl | rfl := closing <;> (rintro _ ⟨⟩; decide)

/-! ## Scalars -/

theorem valueWith_of_skipBlanks {inner : Option (Reader Json)} {bytes start : Bytes}
    (skipped : skipBlanks bytes = start) : valueWith inner bytes = valueWith inner start := by
  have again : skipBlanks start = start := by
    rw [← skipped, ← skipBlanks_of_blanks (blanks_skipBlanks bytes)]
  rw [valueWith, valueWith, skipped, again]

theorem reads_of_single {inner : Option (Reader Json)} {v : Json} {token : List Char}
    (single : v.tokens = [token]) {b : UInt8} {tail : Bytes}
    (first : encodeChars token = b :: tail) (dense : isBlank b = false) (unclosed : b ≠ 0x5D)
    (read : ∀ left, NumberReader.EndsNumber left →
      valueWith inner (encodeChars token ++ left) = .ok (v, left)) :
    Reads (valueWith inner) v where
  opens := ⟨token, [], b, tail, single, first, dense, unclosed⟩
  reads later bytes closes spread := by
    rw [single, List.singleton_append] at spread
    obtain ⟨rest, skipped, onward⟩ := spread.skip first dense
    refine ⟨rest, ?_, onward⟩
    rw [valueWith_of_skipBlanks skipped, ← List.cons_append, ← first]
    exact read rest (onward.endsNumber closes)

theorem reads_null (inner : Option (Reader Json)) : Reads (valueWith inner) .null := by
  have written : encodeChars Json.null.text = [0x6E, 0x75, 0x6C, 0x6C] := by decide
  exact reads_of_single rfl written (by decide) (by decide) fun _ _ => rfl

theorem reads_bool (inner : Option (Reader Json)) (b : Bool) :
    Reads (valueWith inner) (.bool b) := by
  cases b with
  | true =>
    have written : encodeChars (Json.bool true).text = [0x74, 0x72, 0x75, 0x65] := by decide
    exact reads_of_single rfl written (by decide) (by decide) fun _ _ => rfl
  | false =>
    have written : encodeChars (Json.bool false).text = [0x66, 0x61, 0x6C, 0x73, 0x65] := by decide
    exact reads_of_single rfl written (by decide) (by decide) fun _ _ => rfl

theorem ne_of_digit {b : UInt8} (digit : (NumberReader.digit? b).isSome = true) :
    ∀ c ∈ [0x20, 0x09, 0x0A, 0x0D, 0x6E, 0x74, 0x66, 0x2D, 0x5D], b ≠ c := by
  have other : [0x20, 0x09, 0x0A, 0x0D, 0x6E, 0x74, 0x66, 0x2D, 0x5D].all
      (fun c => (NumberReader.digit? c).isNone) = true := by decide
  rintro c member rfl
  rw [Option.isSome_iff_ne_none] at digit
  exact digit (Option.isNone_iff_eq_none.mp (List.all_eq_true.mp other b member))

theorem isBlank_of_digit {b : UInt8} (digit : (NumberReader.digit? b).isSome = true) :
    isBlank b = false := by
  rw [← Bool.not_eq_true, isBlank_eq_true_iff]
  simp [ne_of_digit digit]

theorem valueWith_of_digit {inner : Option (Reader Json)} {b : UInt8} {rest left : Bytes}
    (digit : (NumberReader.digit? b).isSome = true) {n : Number}
    (read : NumberReader.unsigned false (b :: rest) = .ok (n, left)) :
    valueWith inner (b :: rest) = .ok (.number n, left) := by
  have other := ne_of_digit digit
  rw [valueWith, skipBlanks_cons (isBlank_of_digit digit)]
  simp only [other 0x6E (by decide), other 0x74 (by decide), other 0x66 (by decide),
    other 0x2D (by decide), digit, if_false, if_true, read]
  rfl

theorem reads_integer (inner : Option (Reader Json)) (n : Int) (word : IsWord n) :
    Reads (valueWith inner) (.number (.integer n word)) := by
  have small : n.natAbs ≤ NumberReader.greatestSignificand := by
    have whole : NumberReader.greatestSignificand = 0xFFFFFFFFFFFFFFFF := by decide
    rw [whole]
    obtain ⟨low, high⟩ := word
    omega
  have read (left : Bytes) (ends : NumberReader.EndsNumber left) :
      NumberReader.unsigned (decide (n < 0)) (encodeChars (decimalDigits n.natAbs) ++ left) =
        .ok (.integer n word, left) := by
    rw [NumberReader.unsigned_decimalDigits _ small ends, NumberReader.integer_of_isWord word]
  by_cases negative : n < 0
  · have written : encodeChars (integerText n) = 0x2D :: encodeChars (decimalDigits n.natAbs) := by
      rw [integerText, if_pos negative, encodeChars_cons]
      rfl
    refine reads_of_single (by rw [tokens, Number.text]) written (by decide) (by decide)
      fun left ends => ?_
    have token := read left ends
    rw [decide_eq_true negative] at token
    rw [written, List.cons_append, valueWith, skipBlanks_cons (by decide)]
    simp only [token]
    rfl
  · have text : integerText n = decimalDigits n.natAbs := if_neg negative
    rw [decide_eq_false negative] at read
    cases digits : decimalDigits n.natAbs with
    | nil => exact absurd digits Nat.toDigits_ne_nil
    | cons c more =>
      have decimal : c.isDigit = true :=
        Nat.isDigit_of_mem_toDigits (by decide) (by decide) (digits ▸ List.mem_cons_self)
      have digit : (NumberReader.digit? (UInt8.ofNat c.toNat)).isSome = true := by
        rw [NumberReader.digit?_of_isDigit decimal, Option.isSome_some]
      have written := encodeChars_cons_of_ascii (Numeral.isDigit_ascii decimal) more []
      rw [List.append_nil, List.append_nil, ← digits, ← text] at written
      refine reads_of_single (by rw [tokens, Number.text]) written (isBlank_of_digit digit)
        (ne_of_digit digit 0x5D (by decide)) fun left ends => ?_
      have token := read left ends
      rw [← text, written, List.cons_append] at token
      rw [written, List.cons_append]
      exact valueWith_of_digit digit token

theorem reads_string (inner : Option (Reader Json)) (s : String) :
    Reads (valueWith inner) (.string s) := by
  obtain ⟨tail, written, -⟩ := StringReader.string_of_quotedText s []
  rw [List.append_nil] at written
  refine reads_of_single (by rw [tokens]) written (by decide) (by decide) fun left _ => ?_
  obtain ⟨rest, written, read⟩ := StringReader.string_of_quotedText s left
  rw [written, valueWith, skipBlanks_cons (by decide)]
  simp only [read]
  rfl

/-! ## Arrays and objects -/

/-- Every comma takes a byte, and so does the bracket or brace at the end. -/
theorem Spread.length_lt {α : Type} {write : α → List (List Char)} {xs : List α} {token : List Char}
    {later : List (List Char)} {bytes : Bytes} (nonempty : encodeChars token ≠ [])
    (spread : Spread ((xs.flatMap fun x => [','] :: write x) ++ token :: later) bytes) :
    xs.length < bytes.length := by
  induction xs generalizing bytes with
  | nil =>
    cases spread with
    | cons blanks onward =>
      have bound := length_le_of_blanks blanks
      have positive := List.length_pos_iff.mpr nonempty
      rw [List.length_append] at bound
      exact Nat.lt_of_lt_of_le positive (Nat.le_trans (Nat.le_add_right _ _) bound)
  | cons x xs ih =>
    rw [List.flatMap_cons, List.cons_append, List.cons_append, List.append_assoc] at spread
    have comma : encodeChars [','] = [0x2C] := by decide
    cases spread with
    | cons blanks onward =>
      obtain ⟨rest, shorter, spread⟩ := onward.drop
      have bound := length_le_of_blanks blanks
      rw [comma, List.length_append, List.length_singleton] at bound
      have fewer := ih spread
      rw [List.length_cons]
      omega

theorem itemsTokens_eq (vs : List Json) :
    itemsTokens vs = (vs.flatMap fun v => [','] :: v.tokens) ++ [[']']] := by
  induction vs with
  | nil => rfl
  | cons v vs ih => rw [itemsTokens, ih, List.flatMap_cons, List.cons_append, List.cons_append,
      List.append_assoc]

theorem membersTokens_eq (ms : List (String × Json)) :
    membersTokens ms =
      (ms.flatMap fun m => [','] :: quotedText m.1 :: [':'] :: m.2.tokens) ++ [['}']] := by
  induction ms with
  | nil => rfl
  | cons m ms ih =>
    rw [membersTokens, ih, List.flatMap_cons]
    simp only [List.cons_append, List.append_assoc]

section
variable {item : Reader Json} {later : List (List Char)} {bytes : Bytes}

theorem closes_itemsTokens (vs : List Json) : Closes (itemsTokens vs ++ later) := by
  cases vs <;> (rintro token ⟨⟩; decide)

theorem closes_membersTokens (ms : List (String × Json)) : Closes (membersTokens ms ++ later) := by
  cases ms <;> (rintro token ⟨⟩; decide)

/-- Before a value the bytes start with its first token. -/
theorem Opens.skip {v : Json} (opens : Opens v) (spread : Spread (v.tokens ++ later) bytes) :
    ∃ b rest, skipBlanks bytes = b :: rest ∧ b ≠ 0x5D ∧ Spread (v.tokens ++ later) (b :: rest) := by
  obtain ⟨token, more, b, tail, split, first, dense, unclosed⟩ := opens
  rw [split, List.cons_append] at spread ⊢
  obtain ⟨rest, skipped, onward⟩ := spread.skip first dense
  refine ⟨b, tail ++ rest, skipped, unclosed, .cons ?_ onward⟩
  rw [first]
  exact .none

theorem moreItems_of_spread {vs : List Json} (reads : ∀ v ∈ vs, Reads item v) {fuel : Nat}
    (enough : vs.length < fuel) (spread : Spread (itemsTokens vs ++ later) bytes) :
    ∃ left, moreItems item fuel bytes = .ok (vs, left) ∧ Spread later left := by
  have comma : encodeChars [','] = [0x2C] := by decide
  have bracket : encodeChars [']'] = [0x5D] := by decide
  -- a turn for each comma, and one for the bracket
  induction vs generalizing fuel bytes with
  | nil =>
    cases fuel with
    | zero => cases enough
    | succ fuel =>
      obtain ⟨rest, skipped, onward⟩ := Spread.skip spread bracket (by decide)
      refine ⟨rest, ?_, onward⟩
      rw [moreItems, skipped]
      rfl
  | cons v vs ih =>
    cases fuel with
    | zero => cases enough
    | succ fuel =>
      obtain ⟨here, others⟩ := List.forall_mem_cons.mp reads
      rw [itemsTokens, List.cons_append, List.append_assoc] at spread
      obtain ⟨rest, skipped, onward⟩ := spread.skip comma (by decide)
      obtain ⟨c, rest', next, unclosed, onward⟩ := here.opens.skip onward
      obtain ⟨left, first, onward⟩ := here.reads _ _ (closes_itemsTokens vs) onward
      obtain ⟨left', more, onward⟩ := ih others (Nat.lt_of_succ_lt_succ enough) onward
      refine ⟨left', ?_, onward⟩
      rw [List.nil_append] at skipped
      rw [moreItems, skipped]
      simp only [next, first, more, if_neg unclosed, bind, Except.bind, pure, Except.pure]
      rfl

theorem items_of_spread {vs : List Json} (reads : ∀ v ∈ vs, Reads item v)
    (spread : Spread ((Json.array vs).tokens ++ later) bytes) :
    ∃ rest left, skipBlanks bytes = 0x5B :: rest ∧ items item rest = .ok (vs, left) ∧
      Spread later left := by
  have opening : encodeChars ['['] = [0x5B] := by decide
  have closing : encodeChars [']'] = [0x5D] := by decide
  cases vs with
  | nil =>
    obtain ⟨rest, skipped, onward⟩ := Spread.skip spread opening (by decide)
    obtain ⟨left, closed, onward⟩ := onward.skip closing (by decide)
    refine ⟨rest, left, skipped, ?_, onward⟩
    rw [items, closed]
    rfl
  | cons v vs =>
    obtain ⟨here, others⟩ := List.forall_mem_cons.mp reads
    rw [tokens, List.cons_append, List.append_assoc] at spread
    obtain ⟨rest, skipped, onward⟩ := spread.skip opening (by decide)
    obtain ⟨b, rest', next, unclosed, onward⟩ := here.opens.skip onward
    obtain ⟨left, first, onward⟩ := here.reads _ _ (closes_itemsTokens vs) onward
    have enough : vs.length < left.length := by
      rw [itemsTokens_eq, List.append_assoc] at onward
      exact onward.length_lt (by rw [closing]; exact List.cons_ne_nil _ _)
    obtain ⟨left', more, onward⟩ := moreItems_of_spread others enough onward
    refine ⟨rest, left', skipped, ?_, onward⟩
    rw [items, next]
    simp only [first, more, if_neg unclosed, bind, Except.bind, pure, Except.pure]

theorem member_of_spread {key : String} {v : Json} (reads : Reads item v) (closes : Closes later)
    (spread : Spread (quotedText key :: [':'] :: (v.tokens ++ later)) bytes) :
    ∃ rest left, skipBlanks bytes = 0x22 :: rest ∧
      (∀ closed, member item closed (0x22 :: rest) = .ok ((key, v), left)) ∧
      Spread later left := by
  have colon : encodeChars [':'] = [0x3A] := by decide
  obtain ⟨tail, written, -⟩ := StringReader.string_of_quotedText key []
  rw [List.append_nil] at written
  obtain ⟨rest, skipped, onward⟩ := spread.skip written (by decide)
  obtain ⟨quoted, whole, string⟩ := StringReader.string_of_quotedText key rest
  rw [written, List.cons_append] at whole
  obtain rfl := (List.cons.inj whole).2
  obtain ⟨behind, next, onward⟩ := onward.skip colon (by decide)
  obtain ⟨left, value, onward⟩ := reads.reads _ _ closes onward
  refine ⟨tail ++ rest, left, skipped, fun closed => ?_, onward⟩
  rw [List.nil_append] at next
  simp only [member, if_true, string, next, value, bind, Except.bind, pure, Except.pure]

theorem moreMembers_of_spread {ms : List (String × Json)} (reads : ∀ m ∈ ms, Reads item m.2)
    (seen : Members) (distinct : (Members.keys (seen ++ ms)).Nodup) {fuel : Nat}
    (enough : ms.length < fuel) (spread : Spread (membersTokens ms ++ later) bytes) :
    ∃ left, moreMembers item fuel seen bytes = .ok (seen ++ ms, left) ∧ Spread later left := by
  have comma : encodeChars [','] = [0x2C] := by decide
  have brace : encodeChars ['}'] = [0x7D] := by decide
  induction ms generalizing seen fuel bytes with
  | nil =>
    cases fuel with
    | zero => cases enough
    | succ fuel =>
      obtain ⟨rest, skipped, onward⟩ := Spread.skip spread brace (by decide)
      refine ⟨rest, ?_, onward⟩
      rw [moreMembers, skipped, List.append_nil]
      rfl
  | cons m ms ih =>
    cases fuel with
    | zero => cases enough
    | succ fuel =>
      obtain ⟨key, v⟩ := m
      obtain ⟨here, others⟩ := List.forall_mem_cons.mp reads
      rw [membersTokens, List.cons_append, List.cons_append, List.cons_append,
        List.append_assoc] at spread
      obtain ⟨rest, skipped, onward⟩ := spread.skip comma (by decide)
      obtain ⟨rest', left, next, read, onward⟩ :=
        member_of_spread here (closes_membersTokens ms) onward
      have absent : key ∉ Members.keys seen := by
        rw [Members.keys, List.map_append, List.nodup_append] at distinct
        exact fun found => distinct.2.2 key found key List.mem_cons_self rfl
      rw [List.append_cons, ← Members.insert_of_not_mem v absent] at distinct
      obtain ⟨left', more, onward⟩ := ih others _ distinct (Nat.lt_of_succ_lt_succ enough) onward
      refine ⟨left', ?_, onward⟩
      rw [List.nil_append] at skipped
      rw [List.append_cons, ← Members.insert_of_not_mem v absent, ← more, moreMembers, skipped]
      simp only [next, read, bind, Except.bind]
      rfl

theorem members_of_spread {ms : Members} (reads : ∀ m ∈ ms, Reads item m.2)
    (distinct : (Members.keys ms).Nodup)
    (spread : Spread ((Json.object ms).tokens ++ later) bytes) :
    ∃ rest left, skipBlanks bytes = 0x7B :: rest ∧ members item rest = .ok (ms, left) ∧
      Spread later left := by
  have opening : encodeChars ['{'] = [0x7B] := by decide
  have closing : encodeChars ['}'] = [0x7D] := by decide
  cases ms with
  | nil =>
    obtain ⟨rest, skipped, onward⟩ := Spread.skip spread opening (by decide)
    obtain ⟨left, closed, onward⟩ := onward.skip closing (by decide)
    refine ⟨rest, left, skipped, ?_, onward⟩
    rw [members, closed]
    rfl
  | cons m ms =>
    obtain ⟨key, v⟩ := m
    obtain ⟨here, others⟩ := List.forall_mem_cons.mp reads
    rw [tokens, List.cons_append, List.cons_append, List.cons_append, List.append_assoc] at spread
    obtain ⟨rest, skipped, onward⟩ := spread.skip opening (by decide)
    obtain ⟨rest', left, next, read, onward⟩ :=
      member_of_spread here (closes_membersTokens ms) onward
    have enough : ms.length < left.length := by
      rw [membersTokens_eq, List.append_assoc] at onward
      exact onward.length_lt (by rw [closing]; exact List.cons_ne_nil _ _)
    obtain ⟨left', more, onward⟩ :=
      moreMembers_of_spread others [(key, v)] distinct enough onward
    refine ⟨rest, left', skipped, ?_, onward⟩
    rw [members, next]
    simp only [read, more, bind, Except.bind]
    rfl

end

theorem opens_array (vs : List Json) : Opens (.array vs) := by
  have opening : encodeChars ['['] = [0x5B] := by decide
  cases vs <;> exact ⟨_, _, _, _, rfl, opening, by decide, by decide⟩

theorem opens_object (ms : Members) : Opens (.object ms) := by
  have opening : encodeChars ['{'] = [0x7B] := by decide
  cases ms <;> exact ⟨_, _, _, _, rfl, opening, by decide, by decide⟩

theorem reads_at_any_depth {v : Json} (reads : ∀ inner, Reads (valueWith inner) v) (depth : Nat) :
    Reads (value depth) v := by
  cases depth <;> exact reads _

/-- With enough depth a plain value is read back from its tokens. -/
theorem reads_value {depth : Nat} {v : Json} (plain : v.IsPlain depth) :
    Reads (value depth) v := by
  induction plain with
  | null => exact reads_at_any_depth reads_null _
  | bool b => exact reads_at_any_depth (reads_bool · b) _
  | integer n word => exact reads_at_any_depth (reads_integer · n word) _
  | string s => exact reads_at_any_depth (reads_string · s) _
  | @array depth vs _ ih =>
    refine ⟨opens_array vs, fun later bytes _ spread => ?_⟩
    obtain ⟨rest, left, skipped, read, onward⟩ := items_of_spread ih spread
    refine ⟨left, ?_, onward⟩
    rw [value, valueWith, skipped]
    simp only [read]
    rfl
  | @object depth ms distinct _ ih =>
    refine ⟨opens_object ms, fun later bytes _ spread => ?_⟩
    obtain ⟨rest, left, skipped, read, onward⟩ := members_of_spread ih distinct spread
    refine ⟨left, ?_, onward⟩
    rw [value, valueWith, skipped]
    simp only [read]
    rfl

/-- A text in which the tokens of a plain value are spread reads as the value. -/
theorem readText_of_spread {v : Json} (plain : v.IsPlain deepestNesting) {text : Bytes}
    (spread : Spread v.tokens text) : readText text = .ok v := by
  rw [← List.append_nil v.tokens] at spread
  obtain ⟨left, read, onward⟩ := (reads_value plain).reads [] text nofun spread
  cases onward with
  | nil blanks =>
    have ended : skipBlanks left = [] := skipBlanks_of_blanks blanks
    simp only [readText, read, ended, bind, Except.bind, pure, Except.pure]

theorem blanks_append {gap : Bytes} (blanks : Blanks gap []) (rest : Bytes) :
    Blanks (gap ++ rest) rest := by
  generalize ended : [] = left at blanks
  induction blanks with
  | none =>
    subst ended
    exact .none
  | more blank _ ih => exact .more blank (ih ended)

/-- Tokens are spread with the same blanks before each of them. -/
theorem spread_flatMap {gap : Bytes} (blanks : Blanks gap []) (tokens : List (List Char)) :
    Spread tokens (tokens.flatMap fun token => gap ++ encodeChars token) := by
  induction tokens with
  | nil => exact .nil .none
  | cons token tokens ih =>
    rw [List.flatMap_cons, List.append_assoc]
    exact .cons (blanks_append blanks _) ih

/-- The compact text is its own tokens, with no blank between them. -/
theorem spread_text (v : Json) : Spread v.tokens (encodeChars v.text) := by
  have written : encodeChars v.text = v.tokens.flatMap encodeChars := by
    rw [← flatten_tokens]
    induction v.tokens with
    | nil => rfl
    | cons token tokens ih =>
      rw [List.flatten_cons, encodeChars_append, ih, List.flatMap_cons]
  rw [written]
  exact spread_flatMap .none v.tokens

end DocSearch.Json
