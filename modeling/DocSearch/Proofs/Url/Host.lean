import DocSearch.Proofs.Text.Percent
import DocSearch.Url.Parse

/-!
# Hosts made of letters

A name of labels of ASCII letters is a domain: nothing in it is escaped, encoded or refused, and
its last label is no number. Reading it puts it into lower case and changes nothing else.
-/
namespace DocSearch.Domain

/-- Labels of letters with dots between them, as in `localhost`. -/
def isLettered (host : List Char) : Bool :=
  (host.splitOn '.').all fun label => !label.isEmpty && label.all Char.isAlpha

/-- What a lettered name is made of. -/
def isLetterOrDot (c : Char) : Bool := c.isAlpha || c == '.'

theorem isAlpha_ascii (c : Char) (letter : c.isAlpha = true) : c.toNat < 0x80 := by
  have bounded : c.val ≤ 'Z'.val ∨ c.val ≤ 'z'.val := by
    rcases Bool.or_eq_true_iff.mp letter with upper | lower
    · exact .inl (of_decide_eq_true upper).2
    · exact .inr (of_decide_eq_true (Bool.and_eq_true_iff.mp lower).2)
  rcases bounded with upper | lower
  · exact Nat.lt_of_le_of_lt (UInt32.le_iff_toNat_le.mp upper) (by decide)
  · exact Nat.lt_of_le_of_lt (UInt32.le_iff_toNat_le.mp lower) (by decide)

theorem isLetterOrDot_ascii (c : Char) (named : isLetterOrDot c = true) : c.toNat < 0x80 := by
  rcases Bool.or_eq_true_iff.mp named with letter | dot
  · exact isAlpha_ascii c letter
  · rw [beq_iff_eq.mp dot]
    decide

theorem isAlpha_toLower (c : Char) (letter : c.isAlpha = true) : c.toLower.isAlpha = true :=
  Utf8.forall_ascii (fun c => c.isAlpha = true → c.toLower.isAlpha = true) (by decide +kernel) c
    (isAlpha_ascii c letter) letter

theorem isForbidden_of_named (c : Char) (named : isLetterOrDot c = true) :
    isForbidden c = false :=
  Utf8.forall_ascii (fun c => isLetterOrDot c = true → isForbidden c = false) (by decide +kernel) c
    (isLetterOrDot_ascii c named) named

/-! ## Labels -/

theorem mem_intercalate (labels : List (List Char)) (c : Char)
    (found : c ∈ ['.'].intercalate labels) : c = '.' ∨ ∃ label ∈ labels, c ∈ label := by
  induction labels with
  | nil => simp at found
  | cons label rest ih =>
    cases rest with
    | nil => exact .inr ⟨label, by simp, by simpa using found⟩
    | cons next rest =>
      rw [List.intercalate_cons_cons, List.mem_append, List.mem_append] at found
      rcases found with (here | dot) | later
      · exact .inr ⟨label, by simp, here⟩
      · exact .inl (List.mem_singleton.mp dot)
      · obtain dot | ⟨other, member, inside⟩ := ih later
        · exact .inl dot
        · exact .inr ⟨other, List.mem_cons_of_mem label member, inside⟩

section
variable (host : List Char) (lettered : isLettered host = true)
include lettered

theorem label_of_isLettered (label : List Char) (member : label ∈ host.splitOn '.') :
    label ≠ [] ∧ ∀ c ∈ label, c.isAlpha = true := by
  have checked := List.all_eq_true.mp lettered label member
  simpa using checked

theorem mem_of_isLettered (c : Char) (found : c ∈ host) : isLetterOrDot c = true := by
  have joined : ['.'].intercalate (host.splitOn '.') = host := List.intercalate_splitOn '.'
  rw [← joined] at found
  obtain rfl | ⟨label, member, inside⟩ := mem_intercalate (host.splitOn '.') c found
  · rfl
  · have letter := (label_of_isLettered host lettered label member).2 c inside
    simp [isLetterOrDot, letter]

theorem ne_nil_of_isLettered : host ≠ [] := by
  intro same
  subst same
  simp [isLettered] at lettered

end

/-! ## Lower case -/

theorem toLower_beq_dot (c : Char) : (c.toLower == '.') = (c == '.') := by
  by_cases ascii : c.toNat < 0x80
  · exact Utf8.forall_ascii (fun c => (c.toLower == '.') = (c == '.')) (by decide +kernel) c ascii
  · have unchanged : c.toLower = c := by
      have above : ¬ c.val ≤ 'Z'.val := by
        intro upper
        exact ascii (Nat.lt_of_le_of_lt (UInt32.le_iff_toNat_le.mp upper) (by decide))
      exact dif_neg fun range => above range.2
    rw [unchanged]

theorem splitOn_toLower (host : List Char) :
    (host.map Char.toLower).splitOn '.' = (host.splitOn '.').map (·.map Char.toLower) := by
  induction host with
  | nil => rfl
  | cons c host ih =>
    rw [List.map_cons, List.splitOn_cons_eq_if_modifyHead, List.splitOn_cons_eq_if_modifyHead,
      toLower_beq_dot, ih]
    split
    · rfl
    · cases host.splitOn '.' with
      | nil => rfl
      | cons label rest => rfl

theorem isLettered_toLower (host : List Char) (lettered : isLettered host = true) :
    isLettered (host.map Char.toLower) = true := by
  rw [isLettered, splitOn_toLower, List.all_map, List.all_eq_true]
  intro label member
  obtain ⟨filled, letters⟩ := label_of_isLettered host lettered label member
  have lowered : ∀ c ∈ label, c.toLower.isAlpha = true := fun c found =>
    isAlpha_toLower c (letters c found)
  simpa [filled] using lowered

/-! ## The domain -/

/-- A label of letters is its own form in ASCII. -/
theorem ofChars_of_letters (label : List Char) (letters : ∀ c ∈ label, c.isAlpha = true) :
    Label.ofChars? label = some { script := label, ascii := label } := by
  have unmarked : encodedMark.isPrefixOf label = false := by
    rw [Bool.eq_false_iff]
    intro marked
    obtain ⟨rest, rfl⟩ := List.isPrefixOf_iff_prefix.mp marked
    exact absurd (letters '-' (by simp [encodedMark])) (by decide)
  have ascii : label.all Punycode.isAscii = true := by
    rw [List.all_eq_true]
    intro c found
    exact decide_eq_true (isAlpha_ascii c (letters c found))
  simp [Label.ofChars?, unmarked, ascii]

theorem mapM_ofChars (labels : List (List Char))
    (letters : ∀ label ∈ labels, ∀ c ∈ label, c.isAlpha = true) :
    labels.mapM Label.ofChars?
      = some (labels.map fun label => { script := label, ascii := label }) := by
  induction labels with
  | nil => rfl
  | cons label labels ih =>
    obtain ⟨here, rest⟩ := List.forall_mem_cons.mp letters
    rw [List.mapM_cons, ofChars_of_letters label here, ih rest]
    rfl

/-- ASCII names are written from left to right. -/
theorem directionsAreFit_of_ascii (labels : List Label)
    (ascii : ∀ label ∈ labels, ∀ c ∈ label.script, c.toNat < 0x80) :
    directionsAreFit labels = true := by
  have leftward : labels.any (·.script.any isRightToLeft) = false := by
    rw [List.any_eq_false]
    intro label member right
    obtain ⟨c, found, written⟩ := List.any_eq_true.mp right
    have bound := ascii label member c found
    simp only [isRightToLeft, Bool.and_eq_true, decide_eq_true_eq] at written
    omega
  simp [directionsAreFit, leftward]

/-- The ASCII form of a lettered name is its lower case. -/
theorem toAscii_of_isLettered (host : List Char) (lettered : isLettered host = true) :
    toAscii? (Utf8.encodeChars host) = some (host.map Char.toLower) := by
  have ascii : ∀ c ∈ host, c.toNat < 0x80 := fun c found =>
    isLetterOrDot_ascii c (mem_of_isLettered host lettered c found)
  have mapped : mapped? host = some (host.map Char.toLower) := by
    apply if_pos
    rw [List.all_eq_true]
    exact fun c found => decide_eq_true (ascii c found)
  have lower := isLettered_toLower host lettered
  generalize host.map Char.toLower = name at mapped lower ⊢
  have letters : ∀ label ∈ name.splitOn '.', ∀ c ∈ label, c.isAlpha = true := fun label member =>
    (label_of_isLettered name lower label member).2
  have fit : directionsAreFit
      ((name.splitOn '.').map fun label => { script := label, ascii := label }) = true := by
    apply directionsAreFit_of_ascii
    intro label member c found
    obtain ⟨script, inside, rfl⟩ := List.mem_map.mp member
    exact isAlpha_ascii c (letters script inside c found)
  have joined : List.intercalate ['.'] (((name.splitOn '.').map
      fun label => ({ script := label, ascii := label } : Label)).map (·.ascii)) = name := by
    rw [List.map_map]
    exact (congrArg _ (List.map_id _)).trans (List.intercalate_splitOn '.')
  have allowed : name.any isForbidden = false := by
    rw [List.any_eq_false]
    intro c found forbidden
    rw [isForbidden_of_named c (mem_of_isLettered name lower c found)] at forbidden
    exact Bool.false_ne_true forbidden
  simp only [toAscii?, (Utf8.decode_eq_ok_iff _ host).mpr rfl, Except.toOption, mapped,
    mapM_ofChars (name.splitOn '.') letters, Option.bind_eq_bind, Option.bind_some, joined, fit,
    allowed, Bool.not_false, Bool.and_self, if_true]
  rfl

end DocSearch.Domain

namespace DocSearch.Url

open Domain

theorem hexValue_of_letter (c : Char) (letter : c.isAlpha = true) (d : Nat)
    (value : Percent.hexValue? c = some d) : 10 ≤ d := by
  have checked := Utf8.forall_ascii
    (fun c => c.isAlpha = true → (Percent.hexValue? c).all (10 ≤ ·) = true) (by decide +kernel) c
    (isAlpha_ascii c letter) letter
  rw [value] at checked
  exact of_decide_eq_true checked

/-- A word of letters is no numeral: the only prefixes start with a zero, and no letter is a digit
of the decimal base. -/
theorem number_of_letters (c : Char) (rest : List Char) (letter : c.isAlpha = true) :
    Ipv4.number? (c :: rest) = none := by
  have nonzero : c ≠ '0' := by
    intro same
    subst same
    exact absurd letter (by decide)
  have decimal : Ipv4.base (c :: rest) = (10, c :: rest) := by
    unfold Ipv4.base
    split <;> simp_all
  cases value : Percent.hexValue? c with
  | none => simp [Ipv4.number?, decimal, Ipv4.digitsValue?, value]
  | some d =>
    have large := hexValue_of_letter c letter d value
    have above : ¬ d < 10 := by omega
    simp [Ipv4.number?, decimal, Ipv4.digitsValue?, value, above]

theorem endsInNumber_of_isLettered (host : List Char) (lettered : isLettered host = true) :
    Ipv4.endsInNumber host = false := by
  have labels := label_of_isLettered host lettered
  have whole : Ipv4.numberedLabels host = host.splitOn '.' := by
    apply if_neg
    rintro ⟨empty, -⟩
    exact (labels [] (List.mem_of_getLast? empty)).1 rfl
  rw [Ipv4.endsInNumber, whole]
  cases closing : (host.splitOn '.').getLast? with
  | none => rfl
  | some last =>
    obtain ⟨filled, letters⟩ := labels last (List.mem_of_getLast? closing)
    cases last with
    | nil => exact absurd rfl filled
    | cons c rest =>
      have letter := letters c List.mem_cons_self
      have digit : c.isDigit = false := Utf8.forall_ascii
        (fun c => c.isAlpha = true → c.isDigit = false) (by decide +kernel) c
        (isAlpha_ascii c letter) letter
      simp [number_of_letters c rest letter, digit]

/-- A lettered host is the domain of its lower case. -/
theorem specialHost_of_isLettered (host : List Char) (lettered : isLettered host = true) :
    specialHost host = .ok (.domain (host.map Char.toLower)) := by
  have unbracketed : host.head? ≠ some '[' := by
    intro bracket
    have found := List.mem_of_head? bracket
    exact absurd (mem_of_isLettered host lettered '[' found) (by decide)
  have plain : '%' ∉ host := fun found =>
    absurd (mem_of_isLettered host lettered '%' found) (by decide)
  have read : Domain.toAscii? (Percent.decode host) = some (host.map Char.toLower) := by
    rw [Percent.decode_of_no_percent host plain, toAscii_of_isLettered host lettered]
  have lower := isLettered_toLower host lettered
  have number := endsInNumber_of_isLettered (host.map Char.toLower) lower
  have filled := ne_nil_of_isLettered (host.map Char.toLower) lower
  rw [specialHost, if_neg unbracketed, read]
  generalize host.map Char.toLower = name at number filled ⊢
  cases name with
  | nil => exact absurd rfl filled
  | cons c rest => simp [number]

end DocSearch.Url
