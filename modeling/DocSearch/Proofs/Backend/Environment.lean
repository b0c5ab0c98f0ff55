import DocSearch.Backend.Config
import DocSearch.Proofs.Result
import DocSearch.Proofs.Text.Numeral

/-!
# Configurations in variables

A configuration can be kept in named variables. A variable that is not set, one that is empty and
one that holds a text mean different things: for the port the default, no port, and a numeral; for
the prefix none, none, and a prefix; for the type, which has to be given, nothing either way. What
the variables hold is read back as it was, and refused exactly for a missing type or, after that, a
port that is no numeral of 16 bits.
-/
namespace DocSearch

namespace SearchConfig

/-- The texts of a port: the empty one for none, and the numerals of 16 bits, with a plus sign or
without, zeros in front or not. -/
inductive NamesPort : String → Option UInt16 → Prop
  | empty : NamesPort "" none
  | numeral {text : String} {port : UInt16} (sign digits : List Char)
      (spelled : text.toList = sign ++ digits) (signed : sign = [] ∨ sign = ['+'])
      (nonempty : digits ≠ []) (decimal : ∀ c ∈ digits, '0' ≤ c ∧ c ≤ '9')
      (value : port.toNat = Numeral.valueFrom 0 digits) : NamesPort text (some port)

/-- The variables give this configuration. -/
structure IsGiven (lookup : String → Option String) (c : SearchConfig) : Prop where
  docType : lookup "QUARRY_TYPE" = some c.docType ∧ c.docType ≠ ""
  protocol : c.protocol = (lookup "QUARRY_PROTOCOL").getD "http"
  host : c.host = (lookup "QUARRY_HOST").getD "localhost"
  port : (lookup "QUARRY_PORT" = none ∧ c.port = some 9200) ∨
    ∃ text, lookup "QUARRY_PORT" = some text ∧ NamesPort text c.port
  indexPrefix : ∀ label, c.indexPrefix = some label ↔
    lookup "QUARRY_PREFIX" = some label ∧ label ≠ ""
  http : c.http = {}

/-- The variables give no configuration, for this fault. -/
inductive IsRefused (lookup : String → Option String) : ConfigFault → Prop
  | typeNotSet (missing : ∀ docType, lookup "QUARRY_TYPE" = some docType → docType = "") :
      IsRefused lookup .typeNotSet
  | invalidPort {docType text : String} (given : lookup "QUARRY_TYPE" = some docType)
      (nonempty : docType ≠ "") (port : lookup "QUARRY_PORT" = some text)
      (nameless : ∀ port, ¬ NamesPort text port) : IsRefused lookup (.invalidPort text)

/-! ## Ports -/

theorem readPort_eq_ok_iff (text : String) (port : Option UInt16) :
    readPort text = .ok port ↔ NamesPort text port := by
  unfold readPort
  by_cases empty : text = ""
  · subst empty
    rw [if_pos (String.isEmpty_iff.mpr rfl)]
    constructor
    · intro read
      cases read
      exact .empty
    · intro named
      cases named with
      | empty => rfl
      | numeral sign digits spelled signed nonempty =>
        simp at spelled
        exact absurd spelled.2 nonempty
  · rw [if_neg (by simpa using empty)]
    constructor
    · intro read
      split at read
      next n counted =>
        obtain ⟨value, small⟩ := Option.filter_eq_some_iff.mp counted
        rw [decide_eq_true_eq] at small
        obtain ⟨sign, digits, spelled, signed, nonempty, decimal, rfl⟩ :=
          (Numeral.value?_eq_some_iff n _).mp value
        obtain rfl := Except.ok.inj read
        refine .numeral sign digits spelled signed nonempty decimal ?_
        exact UInt16.toNat_ofNat_of_lt' (Nat.lt_succ_of_le small)
      next => cases read
    · intro named
      cases named with
      | empty => exact absurd rfl empty
      | @numeral _ port sign digits spelled signed nonempty decimal value =>
        have bound : port.toNat ≤ 65535 := Nat.le_of_lt_succ port.toNat_lt
        have counted : Numeral.atMost? 65535 text.toList = some port.toNat := by
          refine Option.filter_eq_some_iff.mpr ⟨?_, decide_eq_true bound⟩
          exact (Numeral.value?_eq_some_iff _ _).mpr
            ⟨sign, digits, spelled, signed, nonempty, decimal, value⟩
        rw [counted]
        simp only [UInt16.ofNat_toNat]

/-- A text that names no port is refused as it stands. -/
theorem readPort_eq_error_iff (text : String) (fault : ConfigFault) :
    readPort text = .error fault ↔ (∀ port, ¬ NamesPort text port) ∧ fault = .invalidPort text := by
  simp only [← readPort_eq_ok_iff]
  unfold readPort
  split
  · simp
  · split <;> simp [eq_comm]

example : readPort "+0443" = .ok (some 443) ∧
    readPort "65536" = .error (.invalidPort "65536") := by decide

/-- A port as a text: its digits, or nothing. -/
def portText (c : SearchConfig) : String :=
  match c.port with
  | some port => toString port.toNat
  | none => ""

theorem namesPort_portText (c : SearchConfig) : NamesPort c.portText c.port := by
  unfold portText
  cases c.port with
  | none => exact .empty
  | some port =>
    refine .numeral [] (Nat.toDigits 10 port.toNat) ?_ (.inl rfl) Nat.toDigits_ne_nil ?_ ?_
    · change (toString port.toNat).toList = _
      rw [Nat.toString_eq_repr, Nat.toList_repr, List.nil_append]
    · intro c digit
      have decimal := Nat.isDigit_of_mem_toDigits (by decide) (by decide) digit
      rw [Char.isDigit, Bool.and_eq_true, decide_eq_true_eq, decide_eq_true_eq] at decimal
      exact decimal
    · exact Nat.ofDigitChars_ten_toDigits.symm

/-! ## Variables -/

variable {lookup : String → Option String}

theorem ofLookup_of_typeNotSet
    (missing : ∀ docType, lookup "QUARRY_TYPE" = some docType → docType = "") :
    ofLookup lookup = .error .typeNotSet := by
  have filtered : (lookup "QUARRY_TYPE").filter (!·.isEmpty) = none := by
    rw [Option.filter_eq_none_iff]
    intro docType given
    simp [missing docType given]
  unfold ofLookup
  rw [filtered]

/-- What is left once the type is given. -/
theorem ofLookup_of_type {docType : String} (given : lookup "QUARRY_TYPE" = some docType)
    (nonempty : docType ≠ "") :
    ofLookup lookup = (match lookup "QUARRY_PORT" with
      | some text => readPort text
      | none => .ok (some 9200)) >>= fun port => .ok
        { protocol := (lookup "QUARRY_PROTOCOL").getD "http"
          host := (lookup "QUARRY_HOST").getD "localhost"
          port, docType
          indexPrefix := (lookup "QUARRY_PREFIX").filter (!·.isEmpty) } := by
  have filtered : (lookup "QUARRY_TYPE").filter (!·.isEmpty) = some docType := by
    simp [given, nonempty]
  unfold ofLookup
  rw [filtered]
  cases lookup "QUARRY_PORT" with
  | none => rfl
  | some text => rfl

/-- The port is the default one if the variable is not set, and else the one it names. -/
theorem port_eq_ok_iff (port : Option UInt16) :
    (match lookup "QUARRY_PORT" with
      | some text => readPort text
      | none => .ok (some 9200)) = .ok port ↔
    (lookup "QUARRY_PORT" = none ∧ port = some 9200) ∨
      ∃ text, lookup "QUARRY_PORT" = some text ∧ NamesPort text port := by
  cases lookup "QUARRY_PORT" with
  | none => simp [eq_comm]
  | some text => simp [readPort_eq_ok_iff]

theorem eq_filter_nonempty_iff (label text : Option String) :
    label = text.filter (!·.isEmpty) ↔ ∀ s, label = some s ↔ text = some s ∧ s ≠ "" := by
  rw [Option.ext_iff]
  simp [Option.filter_eq_some_iff]

/-- A configuration is read exactly if the variables give it. -/
theorem ofLookup_eq_ok_iff (c : SearchConfig) : ofLookup lookup = .ok c ↔ IsGiven lookup c := by
  constructor
  · intro read
    by_cases missing : ∀ docType, lookup "QUARRY_TYPE" = some docType → docType = ""
    · rw [ofLookup_of_typeNotSet missing] at read
      cases read
    · simp only [not_forall] at missing
      obtain ⟨docType, given, nonempty⟩ := missing
      rw [ofLookup_of_type given nonempty, bind_eq_ok_iff] at read
      obtain ⟨port, named, built⟩ := read
      rw [← Except.ok.inj built]
      exact ⟨⟨given, nonempty⟩, rfl, rfl, (port_eq_ok_iff port).mp named,
        (eq_filter_nonempty_iff _ _).mp rfl, rfl⟩
  · intro given
    rw [ofLookup_of_type given.docType.1 given.docType.2, bind_eq_ok_iff]
    refine ⟨c.port, (port_eq_ok_iff c.port).mpr given.port, ?_⟩
    rw [← given.protocol, ← given.host, ← (eq_filter_nonempty_iff _ _).mpr given.indexPrefix,
      ← given.http]

/-- Reading fails exactly for a missing type or, if that is given, for a port that is none. -/
theorem ofLookup_eq_error_iff (fault : ConfigFault) :
    ofLookup lookup = .error fault ↔ IsRefused lookup fault := by
  constructor
  · intro failed
    by_cases missing : ∀ docType, lookup "QUARRY_TYPE" = some docType → docType = ""
    · rw [ofLookup_of_typeNotSet missing] at failed
      obtain rfl := Except.error.inj failed
      exact .typeNotSet missing
    · simp only [not_forall] at missing
      obtain ⟨docType, given, nonempty⟩ := missing
      rw [ofLookup_of_type given nonempty, bind_eq_error_iff] at failed
      obtain failed | ⟨port, -, built⟩ := failed
      · split at failed
        next text port =>
          obtain ⟨nameless, rfl⟩ := (readPort_eq_error_iff text fault).mp failed
          exact .invalidPort given nonempty port nameless
        next => cases failed
      · cases built
  · intro refused
    cases refused with
    | typeNotSet missing => exact ofLookup_of_typeNotSet missing
    | invalidPort given nonempty port nameless =>
      rw [ofLookup_of_type given nonempty, port, bind_eq_error_iff]
      exact .inl ((readPort_eq_error_iff _ _).mpr ⟨nameless, rfl⟩)

/-- Nothing but the type and the port decides whether there is a configuration. -/
theorem ofLookup_succeeds_iff (lookup : String → Option String) :
    (∃ c, ofLookup lookup = .ok c) ↔
      (∃ docType, lookup "QUARRY_TYPE" = some docType ∧ docType ≠ "") ∧
        ∀ text, lookup "QUARRY_PORT" = some text → ∃ port, NamesPort text port := by
  constructor
  · intro success
    obtain ⟨c, read⟩ := success
    have given := (ofLookup_eq_ok_iff c).mp read
    refine ⟨⟨c.docType, given.docType⟩, ?_⟩
    intro text found
    obtain unset | ⟨text', found', named⟩ := given.port
    · rw [found] at unset
      cases unset.1
    · rw [found] at found'
      obtain rfl := Option.some.inj found'
      exact ⟨c.port, named⟩
  · intro complete
    obtain ⟨⟨docType, given, nonempty⟩, ports⟩ := complete
    cases read : ofLookup lookup with
    | ok c => exact ⟨c, rfl⟩
    | error fault =>
      cases (ofLookup_eq_error_iff fault).mp read with
      | typeNotSet missing => exact absurd (missing docType given) nonempty
      | invalidPort _ _ found nameless =>
        obtain ⟨port, named⟩ := ports _ found
        exact absurd named (nameless port)

/-- The configuration can be kept in variables: none of them would say something else than it
means, and what they do not hold is as usual. -/
structure IsKeepable (c : SearchConfig) : Prop where
  docType : c.docType ≠ ""
  indexPrefix : c.indexPrefix ≠ some ""
  http : c.http = {}

/-- The variables hold what the configuration says. No prefix is a variable that is not set, or one
that is empty. -/
structure IsKeptIn (c : SearchConfig) (lookup : String → Option String) : Prop where
  docType : lookup "QUARRY_TYPE" = some c.docType
  protocol : lookup "QUARRY_PROTOCOL" = some c.protocol
  host : lookup "QUARRY_HOST" = some c.host
  port : lookup "QUARRY_PORT" = some c.portText
  indexPrefix : lookup "QUARRY_PREFIX" = c.indexPrefix ∨
    lookup "QUARRY_PREFIX" = some (c.indexPrefix.getD "")

/-- What was kept is given. -/
theorem isGiven_of_isKeptIn {c : SearchConfig} (keepable : c.IsKeepable) (kept : c.IsKeptIn lookup) :
    IsGiven lookup c where
  docType := ⟨kept.docType, keepable.docType⟩
  protocol := by rw [kept.protocol, Option.getD_some]
  host := by rw [kept.host, Option.getD_some]
  port := .inr ⟨c.portText, kept.port, c.namesPort_portText⟩
  indexPrefix := by
    intro label
    have nonempty := keepable.indexPrefix
    cases present : c.indexPrefix with
    | none =>
      obtain unset | empty := kept.indexPrefix
      · rw [unset, present]
        simp
      · rw [empty, present]
        simp [eq_comm]
    | some text =>
      have held : lookup "QUARRY_PREFIX" = some text := by
        have either := kept.indexPrefix
        rw [present, Option.getD_some, or_self] at either
        exact either
      rw [held]
      constructor
      · intro same
        refine ⟨same, ?_⟩
        intro empty
        exact nonempty (by rw [present, same, empty])
      · intro same
        exact same.1
  http := keepable.http

/-- Every address that is made from a configuration. -/
structure SameAddresses (l l' : Locator) : Prop where
  domain : l.domainUri = l'.domainUri
  index : l.indexName = l'.indexName ∧ l.indexUri = l'.indexUri
  type : l.typeUri = l'.typeUri
  search : l.searchUri = l'.searchUri
  document : ∀ id, l.documentUri id = l'.documentUri id

/-- Variables are read as a configuration exactly if they give a type and either no port or a text
that names one; a missing type is reported first. What a configuration keeps in them is read back
as it was, so that it makes the same addresses. -/
theorem configurations_read_back :
    (∀ lookup, (∃ c, ofLookup lookup = .ok c) ↔
      (∃ docType, lookup "QUARRY_TYPE" = some docType ∧ docType ≠ "") ∧
        ∀ text, lookup "QUARRY_PORT" = some text → ∃ port, NamesPort text port) ∧
    (∀ lookup fault, ofLookup lookup = .error fault ↔ IsRefused lookup fault) ∧
    (∀ lookup c, ofLookup lookup = .ok c ↔ IsGiven lookup c) ∧
    ∀ (c : SearchConfig) (lookup : String → Option String), c.IsKeepable → c.IsKeptIn lookup →
      ∃ read, ofLookup lookup = .ok read ∧ read = c ∧ SameAddresses read.locator c.locator := by
  refine ⟨ofLookup_succeeds_iff, fun _ => ofLookup_eq_error_iff, fun _ => ofLookup_eq_ok_iff, ?_⟩
  intro c lookup keepable kept
  have given := isGiven_of_isKeptIn keepable kept
  refine ⟨c, (ofLookup_eq_ok_iff c).mpr given, rfl, ?_⟩
  exact ⟨rfl, ⟨rfl, rfl⟩, rfl, rfl, fun _ => rfl⟩

/-- Lions behind a port of their own, in an index that no prefix goes before. -/
def reserveLions : SearchConfig where
  protocol := "https"
  host := "reserve.example"
  port := some 443
  docType := "lions"

/-- What is set for them: a prefix too, but an empty one. -/
def reserveVariables : String → Option String
  | "QUARRY_TYPE" => some "lions"
  | "QUARRY_PROTOCOL" => some "https"
  | "QUARRY_HOST" => some "reserve.example"
  | "QUARRY_PORT" => some "443"
  | "QUARRY_PREFIX" => some ""
  | _ => none

theorem reserveLions_read_back :
    reserveLions.IsKeepable ∧ reserveLions.IsKeptIn reserveVariables ∧
    ∃ read, ofLookup reserveVariables = .ok read ∧ read = reserveLions ∧
      SameAddresses read.locator reserveLions.locator := by
  have keepable : reserveLions.IsKeepable := ⟨by decide, by decide, rfl⟩
  have kept : reserveLions.IsKeptIn reserveVariables := ⟨rfl, rfl, rfl, by decide, .inr rfl⟩
  refine ⟨keepable, kept, ?_⟩
  exact configurations_read_back.2.2.2 reserveLions reserveVariables keepable kept

end SearchConfig
end DocSearch
