import FlightComputer.BoardTester.Colours
import Mathlib.Data.List.TakeWhile

/-!
# The probes in a listing

`_STLINK_SERIAL_PATTERN.findall` of `stlink.py`, and the serial numbers that `discover_probes`
makes of it. The pattern is matched regardless of case, which in Python lets a few letters outside
ASCII through (`foldCase`).

`Lists` says what the pattern means: the text is read from left to right, and where a label with a
serial number begins, the longest one is taken. `findSerials` computes exactly this
(`findSerials_eq_iff`).
-/

set_option autoImplicit false

namespace FlightComputer.BoardTester

open Library

/-! ## The pattern -/

/-- A character without its case, as `re.I` compares characters with letters and digits of ASCII:
`ſ` is an `s`, the Kelvin sign is a `k`, and the dotted capital and the dotless small letter are
an `i`. -/
def foldCase (code : Nat) : Nat :=
  if 0x41 ≤ code ∧ code ≤ 0x5A then code + 0x20
  else if code = 0x17F then 's'.toNat
  else if code = 0x212A then 'k'.toNat
  else if code = 0x130 ∨ code = 0x131 then 'i'.toNat
  else code

/-- `[0-9A-Za-z]` -/
def isSerialCharacter (code : Nat) : Bool :=
  (decide (0x30 ≤ code) && decide (code ≤ 0x39)) ||
    (decide (0x61 ≤ foldCase code) && decide (foldCase code ≤ 0x7A))

/-- The text after a word. -/
def matchWord : PyStr → PyStr → Option PyStr
  | [], text => some text
  | _ :: _, [] => none
  | letter :: word, code :: text =>
      if foldCase code = foldCase letter then matchWord word text else none

/-- `ST-LINK\s+SN\s*:\s*`: the text after a label. -/
def matchLabel (text : PyStr) : Option PyStr := do
  let text ← matchWord (pyStr "ST-LINK") text
  if text.takeWhile isPySpace = [] then none
  else do
    let text ← matchWord (pyStr "SN") (text.dropWhile isPySpace)
    let text ← matchWord (pyStr ":") (text.dropWhile isPySpace)
    pure (text.dropWhile isPySpace)

/-- `_STLINK_SERIAL_PATTERN`: the group, and the text after the match. -/
def matchSerial (text : PyStr) : Option (PyStr × PyStr) := do
  let text ← matchLabel text
  let serial := text.takeWhile isSerialCharacter
  if serial = [] then none else some (serial, text.dropWhile isSerialCharacter)

/-- The groups of the matches, the first one after some characters that have been matched. -/
def findFrom : Nat → PyStr → List PyStr
  | _, [] => []
  | matched + 1, _ :: text => findFrom matched text
  | 0, code :: text =>
      match matchSerial (code :: text) with
      | none => findFrom 0 text
      | some (serial, rest) => serial :: findFrom (text.length - rest.length) text

/-- `_STLINK_SERIAL_PATTERN.findall` -/
def findSerials (text : PyStr) : List PyStr := findFrom 0 text

/-- The probes of a listing: `dict.fromkeys` keeps the first of equal serial numbers. -/
def discoveredProbes (listing : PyStr) : List PyStr := (findSerials listing).eraseDups

/-! ## What the pattern means -/

/-- The text is a word, but for the case. -/
def IsWord (word text : PyStr) : Prop := text.map foldCase = word.map foldCase

/-- White space, which may be nothing. -/
def IsSpace (text : PyStr) : Prop := ∀ code ∈ text, isPySpace code = true

/-- A label. -/
inductive IsProbeLabel : PyStr → Prop where
  | intro {first gap second between colon after : PyStr} (link : IsWord (pyStr "ST-LINK") first)
      (apart : gap ≠ []) (gapSpace : IsSpace gap) (number : IsWord (pyStr "SN") second)
      (betweenSpace : IsSpace between) (mark : IsWord (pyStr ":") colon)
      (afterSpace : IsSpace after) :
      IsProbeLabel (first ++ (gap ++ (second ++ (between ++ (colon ++ after)))))

/-- A serial number. -/
structure IsSerial (serial : PyStr) : Prop where
  nonempty : serial ≠ []
  characters : ∀ code ∈ serial, isSerialCharacter code = true

/-- The text begins with a label and a serial number. -/
def Labelled (text : PyStr) : Prop :=
  ∃ label serial rest, IsProbeLabel label ∧ IsSerial serial ∧ text = label ++ (serial ++ rest)

/-- **The serial numbers that a text lists**, from left to right: each one is taken as long as it
is, and the text after it is read on. -/
inductive Lists : PyStr → List PyStr → Prop where
  | nil : Lists [] []
  | other {code : Nat} {text : PyStr} {serials : List PyStr}
      (unlabelled : ¬Labelled (code :: text)) (later : Lists text serials) :
      Lists (code :: text) serials
  | probe {label serial text : PyStr} {serials : List PyStr} (isLabel : IsProbeLabel label)
      (isSerial : IsSerial serial)
      (ended : ∀ code, text.head? = some code → isSerialCharacter code = false)
      (later : Lists text serials) : Lists (label ++ (serial ++ text)) (serial :: serials)

/-! ## Reading a label -/

/-- The text does not go on with a character of a kind. -/
def EndsBefore (kind : Nat → Bool) (text : PyStr) : Prop :=
  ∀ code, text.head? = some code → kind code = false

/-- **What is taken while characters are of a kind**, if the text then ends or goes on with
another character. -/
theorem takeWhile_of_endsBefore {kind : Nat → Bool} {front rest : PyStr}
    (all : ∀ code ∈ front, kind code = true) (ends : EndsBefore kind rest) :
    (front ++ rest).takeWhile kind = front ∧ (front ++ rest).dropWhile kind = rest := by
  rw [List.takeWhile_append_of_pos all, List.dropWhile_append_of_pos all]
  cases rest with
  | nil => exact ⟨List.append_nil front, rfl⟩
  | cons code rest =>
      have other := ends code rfl
      rw [List.takeWhile_cons_of_neg (Bool.eq_false_iff.mp other),
        List.dropWhile_cons_of_neg (Bool.eq_false_iff.mp other)]
      exact ⟨List.append_nil front, rfl⟩

/-- What is left does not begin with a character of the kind. -/
theorem endsBefore_dropWhile (kind : Nat → Bool) (text : PyStr) :
    EndsBefore kind (text.dropWhile kind) := by
  induction text with
  | nil =>
      intro code first
      cases first
  | cons code text ih =>
      cases holds : kind code with
      | true =>
          rw [List.dropWhile_cons_of_pos holds]
          exact ih
      | false =>
          rw [List.dropWhile_cons_of_neg (Bool.eq_false_iff.mp holds)]
          intro first same
          obtain rfl := Option.some.inj same
          exact holds

/-- What is taken is of the kind. -/
theorem kind_of_mem_takeWhile {kind : Nat → Bool} {text : PyStr} :
    ∀ code ∈ text.takeWhile kind, kind code = true :=
  fun _ listed => List.mem_takeWhile_imp listed

/-- **A word is matched** exactly if the text begins with it. -/
theorem matchWord_eq_some_iff {word text rest : PyStr} :
    matchWord word text = some rest ↔ ∃ first, IsWord word first ∧ text = first ++ rest := by
  induction word generalizing text with
  | nil =>
      constructor
      · intro same
        exact ⟨[], rfl, Option.some.inj same⟩
      · rintro ⟨first, isWord, rfl⟩
        obtain rfl := List.map_eq_nil_iff.mp isWord
        rfl
  | cons letter word ih =>
      cases text with
      | nil =>
          refine iff_of_false (fun same => Option.noConfusion rfl (heq_of_eq same)) ?_
          rintro ⟨first, isWord, empty⟩
          obtain ⟨rfl, _⟩ := List.append_eq_nil_iff.mp empty.symm
          cases isWord
      | cons code text =>
          rw [matchWord]
          by_cases same : foldCase code = foldCase letter
          · rw [if_pos same, ih]
            constructor
            · rintro ⟨first, isWord, rfl⟩
              exact ⟨code :: first, List.cons_eq_cons.mpr ⟨same, isWord⟩, rfl⟩
            · rintro ⟨first, isWord, split⟩
              cases first with
              | nil => cases isWord
              | cons code' first =>
                  obtain ⟨_, isWord⟩ := List.cons_eq_cons.mp isWord
                  exact ⟨first, isWord, (List.cons_eq_cons.mp split).2⟩
          · rw [if_neg same]
            refine iff_of_false (fun none => Option.noConfusion rfl (heq_of_eq none)) ?_
            rintro ⟨first, isWord, split⟩
            cases first with
            | nil => cases isWord
            | cons code' first =>
                obtain ⟨rfl, _⟩ := List.cons_eq_cons.mp split
                exact same (List.cons_eq_cons.mp isWord).1

/-- What white space is made of. -/
theorem isPySpace_cases {code : Nat} (space : isPySpace code = true) :
    code ≤ 0x20 ∨ code ∈ [0x85, 0xA0, 0x1680, 0x2028, 0x2029, 0x202F, 0x205F, 0x3000] ∨
      0x2000 ≤ code ∧ code ≤ 0x200A := by
  simp only [isPySpace, Bool.or_eq_true, Bool.and_eq_true, decide_eq_true_eq, List.contains_iff_mem]
    at space
  rcases space with (((⟨_, le⟩ | ⟨_, le⟩) | block) | listed)
  · exact .inl (Nat.le_trans le (by decide))
  · exact .inl le
  · exact .inr (.inr block)
  · exact .inr (.inl listed)

/-- White space has no case, and is not printed in ASCII. -/
theorem foldCase_of_isPySpace {code : Nat} (space : isPySpace code = true) :
    foldCase code = code ∧ (code ≤ 0x20 ∨ 0x7F ≤ code) := by
  have apart : code ≤ 0x20 ∨
      0x85 ≤ code ∧ code ≠ 0x17F ∧ code ≠ 0x212A ∧ code ≠ 0x130 ∧ code ≠ 0x131 := by
    rcases isPySpace_cases space with low | listed | block
    · exact .inl low
    · simp only [List.mem_cons, List.not_mem_nil, or_false] at listed
      omega
    · omega
  refine ⟨?_, by omega⟩
  rw [foldCase, if_neg (by omega), if_neg (by omega), if_neg (by omega), if_neg (by omega)]

/-- A character that is printed in ASCII, but for its case, is no white space. -/
theorem isPySpace_eq_false {code : Nat} (above : 0x20 < foldCase code)
    (below : foldCase code < 0x7F) : isPySpace code = false := by
  refine Bool.eq_false_iff.mpr fun space => ?_
  obtain ⟨same, apart⟩ := foldCase_of_isPySpace space
  omega

/-- A character of a serial number is no white space. -/
theorem isPySpace_of_isSerialCharacter {code : Nat} (serial : isSerialCharacter code = true) :
    isPySpace code = false := by
  refine Bool.eq_false_iff.mpr fun space => ?_
  obtain ⟨same, apart⟩ := foldCase_of_isPySpace space
  simp only [isSerialCharacter, same, Bool.or_eq_true, Bool.and_eq_true, decide_eq_true_eq] at serial
  omega

/-- A word that is printed ends white space before it. -/
theorem endsBefore_of_isWord {letter : Nat} {word first : PyStr} (rest : PyStr)
    (isWord : IsWord (letter :: word) first) (above : 0x20 < foldCase letter)
    (below : foldCase letter < 0x7F) : EndsBefore isPySpace (first ++ rest) := by
  cases first with
  | nil => cases isWord
  | cons code first =>
      obtain ⟨same, _⟩ := List.cons_eq_cons.mp isWord
      intro code' first'
      obtain rfl := Option.some.inj first'
      exact isPySpace_eq_false (same ▸ above) (same ▸ below)

/-- **A label is matched** exactly if the text begins with it, with all white space after it. -/
theorem matchLabel_eq_some_iff {text rest : PyStr} :
    matchLabel text = some rest ↔
      EndsBefore isPySpace rest ∧ ∃ label, IsProbeLabel label ∧ text = label ++ rest := by
  constructor
  · intro matched
    obtain ⟨text₁, link, further⟩ := Option.bind_eq_some_iff.mp matched
    obtain ⟨first, isLink, rfl⟩ := matchWord_eq_some_iff.mp link
    by_cases apart : text₁.takeWhile isPySpace = []
    · rw [if_pos apart] at further
      cases further
    rw [if_neg apart] at further
    obtain ⟨text₂, number, further'⟩ := Option.bind_eq_some_iff.mp further
    obtain ⟨second, isNumber, split⟩ := matchWord_eq_some_iff.mp number
    obtain ⟨text₃, mark, same⟩ := Option.bind_eq_some_iff.mp further'
    obtain ⟨colon, isMark, split'⟩ := matchWord_eq_some_iff.mp mark
    obtain rfl := Option.some.inj same
    refine ⟨endsBefore_dropWhile isPySpace text₃, _,
      .intro isLink apart (@kind_of_mem_takeWhile _ text₁) isNumber
        (@kind_of_mem_takeWhile _ text₂) isMark (@kind_of_mem_takeWhile _ text₃), ?_⟩
    simp only [List.append_assoc, List.takeWhile_append_dropWhile]
    rw [← split', List.takeWhile_append_dropWhile, ← split, List.takeWhile_append_dropWhile]
  · rintro ⟨ends, _, ⟨link, apart, gapSpace, number, betweenSpace, mark, afterSpace⟩, rfl⟩
    rename_i first gap second between colon after
    have numberEnds : EndsBefore isPySpace (second ++ (between ++ (colon ++ (after ++ rest)))) :=
      endsBefore_of_isWord _ number (by decide) (by decide)
    have markEnds : EndsBefore isPySpace (colon ++ (after ++ rest)) :=
      endsBefore_of_isWord _ mark (by decide) (by decide)
    obtain ⟨taken, dropped⟩ := takeWhile_of_endsBefore gapSpace numberEnds
    obtain ⟨_, dropped'⟩ := takeWhile_of_endsBefore betweenSpace markEnds
    obtain ⟨_, dropped''⟩ := takeWhile_of_endsBefore afterSpace ends
    simp only [List.append_assoc]
    refine Option.bind_eq_some_iff.mpr ⟨_, matchWord_eq_some_iff.mpr ⟨first, link, rfl⟩, ?_⟩
    rw [taken, if_neg apart, dropped]
    refine Option.bind_eq_some_iff.mpr ⟨_, matchWord_eq_some_iff.mpr ⟨second, number, rfl⟩, ?_⟩
    rw [dropped']
    refine Option.bind_eq_some_iff.mpr ⟨_, matchWord_eq_some_iff.mpr ⟨colon, mark, rfl⟩, ?_⟩
    rw [dropped'']
    rfl

/-- A serial number ends white space before it. -/
theorem IsSerial.endsBefore {serial : PyStr} (isSerial : IsSerial serial) (rest : PyStr) :
    EndsBefore isPySpace (serial ++ rest) := by
  obtain ⟨nonempty, characters⟩ := isSerial
  cases serial with
  | nil => exact absurd rfl nonempty
  | cons code serial =>
      intro code' first
      obtain rfl := Option.some.inj first
      exact isPySpace_of_isSerialCharacter (characters code List.mem_cons_self)

/-- **A serial number is matched** exactly if the text begins with a label and with it, and then
goes on with something else. -/
theorem matchSerial_eq_some_iff {text serial rest : PyStr} :
    matchSerial text = some (serial, rest) ↔
      IsSerial serial ∧ EndsBefore isSerialCharacter rest ∧
        ∃ label, IsProbeLabel label ∧ text = label ++ (serial ++ rest) := by
  constructor
  · intro matched
    obtain ⟨text', labelled, further⟩ := Option.bind_eq_some_iff.mp matched
    obtain ⟨_, label, isLabel, rfl⟩ := matchLabel_eq_some_iff.mp labelled
    change (if text'.takeWhile isSerialCharacter = [] then none else
      some (text'.takeWhile isSerialCharacter, text'.dropWhile isSerialCharacter)) = _ at further
    by_cases nothing : text'.takeWhile isSerialCharacter = []
    · rw [if_pos nothing] at further
      cases further
    rw [if_neg nothing] at further
    obtain ⟨rfl, rfl⟩ := Prod.mk.inj (Option.some.inj further)
    exact ⟨⟨nothing, kind_of_mem_takeWhile⟩, endsBefore_dropWhile isSerialCharacter text', label,
      isLabel, by rw [List.takeWhile_append_dropWhile]⟩
  · rintro ⟨isSerial, ends, label, isLabel, rfl⟩
    obtain ⟨taken, dropped⟩ := takeWhile_of_endsBefore isSerial.characters ends
    refine Option.bind_eq_some_iff.mpr ⟨serial ++ rest,
      matchLabel_eq_some_iff.mpr ⟨isSerial.endsBefore rest, label, isLabel, rfl⟩, ?_⟩
    show (if (serial ++ rest).takeWhile isSerialCharacter = [] then none else
      some ((serial ++ rest).takeWhile isSerialCharacter,
        (serial ++ rest).dropWhile isSerialCharacter)) = _
    rw [taken, dropped, if_neg isSerial.nonempty]

/-- **Nothing is matched** exactly if the text does not begin with a label and a serial number. -/
theorem matchSerial_eq_none_iff {text : PyStr} : matchSerial text = none ↔ ¬Labelled text := by
  constructor
  · rintro none ⟨label, serial, rest, isLabel, isSerial, rfl⟩
    have whole : IsSerial (serial ++ rest.takeWhile isSerialCharacter) := by
      refine ⟨List.append_ne_nil_of_left_ne_nil isSerial.nonempty _, fun code listed => ?_⟩
      rcases List.mem_append.mp listed with early | late
      · exact isSerial.characters code early
      · exact kind_of_mem_takeWhile code late
    have matched : matchSerial (label ++ (serial ++ rest)) =
        some (serial ++ rest.takeWhile isSerialCharacter, rest.dropWhile isSerialCharacter) := by
      refine matchSerial_eq_some_iff.mpr ⟨whole, endsBefore_dropWhile isSerialCharacter rest, label,
        isLabel, ?_⟩
      rw [List.append_assoc, List.takeWhile_append_dropWhile]
    exact Option.some_ne_none _ (matched.symm.trans none)
  · intro unlabelled
    cases matched : matchSerial text with
    | none => rfl
    | some both =>
        obtain ⟨isSerial, _, label, isLabel, split⟩ := matchSerial_eq_some_iff.mp matched
        exact absurd ⟨label, both.1, both.2, isLabel, isSerial, split⟩ unlabelled

/-! ## Reading a listing -/

/-- Characters that have been matched are passed over. -/
theorem findFrom_eq_drop (matched : Nat) (text : PyStr) :
    findFrom matched text = findSerials (text.drop matched) := by
  induction matched generalizing text with
  | zero => rfl
  | succ matched ih =>
      cases text with
      | nil => rfl
      | cons code text => exact ih text

/-- A character at which nothing is matched is passed over. -/
theorem findSerials_other {code : Nat} {text : PyStr} (unlabelled : ¬Labelled (code :: text)) :
    findSerials (code :: text) = findSerials text := by
  rw [findSerials, findFrom, matchSerial_eq_none_iff.mpr unlabelled]
  rfl

/-- **A serial number is found**, and the text after it is searched. -/
theorem findSerials_probe {label serial rest : PyStr} (isLabel : IsProbeLabel label)
    (isSerial : IsSerial serial) (ends : EndsBefore isSerialCharacter rest) :
    findSerials (label ++ (serial ++ rest)) = serial :: findSerials rest := by
  have matched : matchSerial (label ++ (serial ++ rest)) = some (serial, rest) :=
    matchSerial_eq_some_iff.mpr ⟨isSerial, ends, label, isLabel, rfl⟩
  rw [← List.append_assoc] at matched ⊢
  have nonempty : label ++ serial ≠ [] := List.append_ne_nil_of_right_ne_nil label isSerial.nonempty
  cases front : label ++ serial with
  | nil => exact absurd front nonempty
  | cons code front =>
      rw [front, List.cons_append] at matched
      rw [List.cons_append, findSerials, findFrom, matched]
      show serial :: findFrom _ _ = _
      rw [findFrom_eq_drop, List.length_append, Nat.add_sub_cancel,
        List.drop_left]

/-- **What `findall` finds is what the pattern means**, and the pattern means one thing. -/
theorem findSerials_eq_iff {text : PyStr} {serials : List PyStr} :
    findSerials text = serials ↔ Lists text serials := by
  constructor
  · rintro rfl
    induction length : text.length using Nat.strong_induction_on generalizing text with
    | _ size ih =>
        cases text with
        | nil => exact .nil
        | cons code text =>
            by_cases labelled : Labelled (code :: text)
            · cases matched : matchSerial (code :: text) with
              | none => exact absurd labelled (matchSerial_eq_none_iff.mp matched)
              | some both =>
                  obtain ⟨isSerial, ends, label, isLabel, split⟩ :=
                    matchSerial_eq_some_iff.mp matched
                  rw [split] at length ⊢
                  rw [findSerials_probe isLabel isSerial ends]
                  refine .probe isLabel isSerial ends (ih both.2.length ?_ rfl)
                  have positive := List.length_pos_iff.mpr isSerial.nonempty
                  rw [← length, List.length_append, List.length_append]
                  omega
            · rw [findSerials_other labelled]
              refine .other labelled (ih text.length ?_ rfl)
              rw [← length, List.length_cons]
              exact Nat.lt_succ_self _
  · intro lists
    induction lists with
    | nil => rfl
    | other unlabelled _ ih => rw [findSerials_other unlabelled, ih]
    | probe isLabel isSerial ends _ ih => rw [findSerials_probe isLabel isSerial ends, ih]

/-! ## The probes -/

/-- **The first of equal values are kept.** -/
theorem eraseDups_spec (values : List PyStr) :
    values.eraseDups.Nodup ∧ values.eraseDups.Sublist values ∧
      ∀ value, value ∈ values.eraseDups ↔ value ∈ values := by
  induction length : values.length using Nat.strong_induction_on generalizing values with
  | _ size ih =>
      cases values with
      | nil => exact ⟨List.nodup_nil, List.Sublist.refl _, fun _ => Iff.rfl⟩
      | cons first values =>
          have shorter : (values.filter fun value => !value == first).length < size := by
            rw [← length, List.length_cons]
            exact Nat.lt_succ_of_le (List.length_filter_le _ _)
          obtain ⟨distinct, sublist, same⟩ := ih _ shorter _ rfl
          have others : ∀ value, value ∈ values.filter (fun value => !value == first) ↔
              value ∈ values ∧ value ≠ first := by
            intro value
            rw [List.mem_filter, Bool.not_eq_true', beq_eq_false_iff_ne]
          rw [List.eraseDups_cons]
          refine ⟨List.nodup_cons.mpr ⟨?_, distinct⟩, ?_, ?_⟩
          · intro listed
            exact ((others first).mp ((same first).mp listed)).2 rfl
          · exact (sublist.trans List.filter_sublist).cons_cons first
          · intro value
            rw [List.mem_cons, same, others, List.mem_cons]
            constructor
            · rintro (rfl | ⟨listed, _⟩)
              · exact .inl rfl
              · exact .inr listed
            · rintro (rfl | listed)
              · exact .inl rfl
              · by_cases equal : value = first
                · exact .inl equal
                · exact .inr ⟨listed, equal⟩

/-- **The probes of a listing are the serial numbers that it lists**, each once: the pattern reads
exactly one list of serial numbers from every text, and the probes are these, without
repetitions and in the same order. -/
theorem probes_are_listed (listing : PyStr) :
    ∃ serials, Lists listing serials ∧ (∀ others, Lists listing others → others = serials) ∧
      (discoveredProbes listing).Nodup ∧ (discoveredProbes listing).Sublist serials ∧
      ∀ probe, probe ∈ discoveredProbes listing ↔ probe ∈ serials := by
  refine ⟨findSerials listing, findSerials_eq_iff.mp rfl, fun others lists => ?_,
    eraseDups_spec (findSerials listing)⟩
  exact (findSerials_eq_iff.mpr lists).symm

/-- Two probes, of which the first is listed twice, once in another case. -/
example : discoveredProbes (pyStr "ST-LINK SN  : 066EFF31\n  St-Link SN: AABB\nST-LINK SN:066EFF31") =
    [pyStr "066EFF31", pyStr "AABB"] := by decide +kernel

end FlightComputer.BoardTester
