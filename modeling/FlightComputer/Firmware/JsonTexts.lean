import FlightComputer.Firmware.JsmnTokens

/-!
# The tokenizer on JSON texts

The tokenizer knows no grammar, but on a JSON text it does what one expects: the
text falls into the lexemes of its tree (`exists_reads_of_isJsonText`), whose
brackets match (`bracketsMatch_lexemes`). A text falls into lexemes in one way
only (`JsmnReads.unique`), and unless it contains a NUL byte these lexemes and
whitespace are all there is to it (`JsmnReads.laidOut`).
-/

set_option autoImplicit false

namespace FlightComputer.Firmware

open Library

/-! ## Lexemes of JSON -/

/-- What the tokenizer takes for a lexeme. -/
def IsJsmnLexeme : Lexeme → Prop
  | .punctuation byte => isJsmnPunctuation byte = true
  | .string content => IsJsmnString content
  | .literal text => IsPrimitive text

theorem isJsmnString_of_isStringContent {content : Bytes} (legal : IsStringContent content) :
    IsJsmnString content := by
  induction legal with
  | nil => exact .nil
  | @plain byte rest itself later ih =>
      simp only [isPlainStringByte, Bool.and_eq_true, decide_eq_true_eq, bne_iff_ne] at itself
      refine .plain ?_ itself.1.2 itself.2 ih
      rintro rfl
      exact absurd itself.1.1 (by decide)
  | escape known later ih => exact .escape known ih
  | unicode hex later ih => exact .unicode hex ih

/-- The bytes that numbers consist of. -/
def isNumberByte (byte : UInt8) : Bool :=
  isDecimalDigit byte.toNat || byte == '-'.toUInt8 || byte == '+'.toUInt8 ||
    byte == '.'.toUInt8 || byte == 'e'.toUInt8 || byte == 'E'.toUInt8

theorem isNumberByte_toNat {byte : UInt8} (legal : isNumberByte byte = true) :
    (48 ≤ byte.toNat ∧ byte.toNat ≤ 57) ∨ byte.toNat = 45 ∨ byte.toNat = 43 ∨
      byte.toNat = 46 ∨ byte.toNat = 101 ∨ byte.toNat = 69 := by
  simp only [isNumberByte, isDecimalDigit, Bool.or_eq_true, Bool.and_eq_true, decide_eq_true_eq,
    beq_iff_eq] at legal
  rcases legal with ((((digit | rfl) | rfl) | rfl) | rfl) | rfl
  · exact .inl digit
  · exact .inr (.inl rfl)
  · exact .inr (.inr (.inl rfl))
  · exact .inr (.inr (.inr (.inl rfl)))
  · exact .inr (.inr (.inr (.inr (.inl rfl))))
  · exact .inr (.inr (.inr (.inr (.inr rfl))))

/-- The bytes of a number are none of the bytes with a role of their own. -/
theorem isPrimitive_of_numberBytes {text : Bytes} (nonempty : text ≠ [])
    (inside : ∀ byte ∈ text, isNumberByte byte = true) : IsPrimitive text := by
  have apart : ∀ {byte other : UInt8}, isNumberByte byte = true → isNumberByte other = false →
      byte ≠ other := by
    rintro byte other legal illegal rfl
    rw [legal] at illegal
    cases illegal
  have byteFits : ∀ byte, isNumberByte byte = true → isPrimitiveByte byte = true := by
    intro byte legal
    have code := isNumberByte_toNat legal
    have zero : byte ≠ 0 := apart legal (by decide)
    have ends : endsPrimitive byte = false := by
      simp only [endsPrimitive, isJsonWhitespace, Bool.or_eq_false_iff, beq_eq_false_iff_ne]
      exact ⟨⟨⟨⟨⟨⟨apart legal (by decide), apart legal (by decide)⟩, apart legal (by decide)⟩,
        apart legal (by decide)⟩, apart legal (by decide)⟩, apart legal (by decide)⟩,
        apart legal (by decide)⟩
    simp only [isPrimitiveByte, ends, Bool.and_eq_true, bne_iff_ne, ne_eq, zero,
      not_false_eq_true, Bool.not_false, decide_eq_true_eq, true_and]
    omega
  obtain ⟨first, others, rfl⟩ := List.exists_cons_of_ne_nil nonempty
  have head := inside first List.mem_cons_self
  refine ⟨fun byte listed => byteFits byte (inside byte listed), first, others, rfl, ?_,
    apart head (by decide)⟩
  simp only [isJsmnPunctuation, Bool.or_eq_false_iff, beq_eq_false_iff_ne]
  exact ⟨⟨⟨⟨⟨apart head (by decide), apart head (by decide)⟩, apart head (by decide)⟩,
    apart head (by decide)⟩, apart head (by decide)⟩, apart head (by decide)⟩

theorem numberBytes_of_allDigits {text : Bytes} (digits : AllDigits text) :
    ∀ byte ∈ text, isNumberByte byte = true := by
  intro byte listed
  simp [isNumberByte, digits byte listed]

theorem isPrimitive_of_isNumber {text : Bytes} (number : IsNumber text) : IsPrimitive text := by
  obtain ⟨minus, whole, fraction, exponent, rfl, sign, ⟨digits, first, others, rfl, _⟩, point,
    power⟩ := number
  refine isPrimitive_of_numberBytes (by simp) ?_
  intro byte listed
  simp only [List.mem_append] at listed
  rcases listed with inMinus | inWhole | inFraction | inExponent
  · rcases sign with rfl | rfl
    · cases inMinus
    · rw [List.mem_singleton.mp inMinus]
      decide
  · exact numberBytes_of_allDigits digits byte inWhole
  · rcases point with rfl | ⟨digits, rfl, _, all⟩
    · cases inFraction
    · rcases List.mem_cons.mp inFraction with rfl | later
      · decide
      · exact numberBytes_of_allDigits all byte later
  · rcases power with rfl | ⟨mark, sign, digits, rfl, marks, signs, _, all⟩
    · cases inExponent
    · rcases List.mem_cons.mp inExponent with rfl | later
      · rcases marks with rfl | rfl <;> decide
      · rcases List.mem_append.mp later with inSign | inDigits
        · rcases signs with rfl | rfl | rfl
          · cases inSign
          · rw [List.mem_singleton.mp inSign]
            decide
          · rw [List.mem_singleton.mp inSign]
            decide
        · exact numberBytes_of_allDigits all byte inDigits

/-! ## Lexemes that keep apart -/

/-- That a literal may stand before these lexemes. -/
def StartsSeparator (lexemes : List Lexeme) : Prop :=
  ∀ lexeme rest, lexemes = lexeme :: rest →
    ∃ byte, lexeme = .punctuation byte ∧ endsPrimitive byte = true

/-- Lexemes of which every layout falls into them again. -/
inductive Separable : List Lexeme → Prop where
  | nil : Separable []
  | cons {lexeme : Lexeme} {lexemes : List Lexeme} (legal : IsJsmnLexeme lexeme)
      (apart : ∀ text, lexeme = .literal text → StartsSeparator lexemes)
      (later : Separable lexemes) : Separable (lexeme :: lexemes)

theorem reads_gap {gap text : Bytes} (space : ∀ byte ∈ gap, isJsonWhitespace byte = true)
    {pos : Nat} {located : List (Nat × Lexeme)}
    (reads : JsmnReads (pos + gap.length) text located) : JsmnReads pos (gap ++ text) located := by
  induction gap generalizing pos with
  | nil => exact reads
  | cons byte gap ih =>
      refine .blank (space byte List.mem_cons_self)
        (ih (fun other listed => space other (.tail _ listed)) ?_)
      rwa [Nat.add_assoc, Nat.add_comm 1]

theorem endsPrimitive_of_laidOut {lexemes : List Lexeme} {text : Bytes}
    (layout : LaidOut lexemes text) (separated : StartsSeparator lexemes) :
    EndsPrimitive text := by
  have blank : ∀ {byte : UInt8}, isJsonWhitespace byte = true → endsPrimitive byte = true := by
    intro byte space
    simp [endsPrimitive, space]
  intro byte later same
  refine .inr ?_
  cases layout with
  | blank space =>
      subst same
      exact blank (space byte List.mem_cons_self)
  | @lexeme gap lexeme lexemes text space rest =>
      cases gap with
      | nil =>
          obtain ⟨mark, rfl, ends⟩ := separated lexeme lexemes rfl
          obtain ⟨rfl, _⟩ := List.cons.inj same
          exact ends
      | cons first gap =>
          obtain ⟨rfl, _⟩ := List.cons.inj same
          exact blank (space _ List.mem_cons_self)

/-- **A layout of separable lexemes falls into them.** -/
theorem exists_reads_of_laidOut {lexemes : List Lexeme} {text : Bytes}
    (layout : LaidOut lexemes text) (separable : Separable lexemes) (pos : Nat) :
    ∃ located, JsmnReads pos text located ∧ located.map Prod.snd = lexemes := by
  induction layout generalizing pos with
  | @blank gap space =>
      refine ⟨[], ?_, rfl⟩
      rw [← List.append_nil gap]
      exact reads_gap space (.finish _)
  | @lexeme gap lexeme lexemes text space later ih =>
      cases separable with
      | cons legal apart rest =>
          cases lexeme with
          | punctuation byte =>
              obtain ⟨located, reads, rfl⟩ := ih rest (pos + gap.length + 1)
              exact ⟨_, reads_gap space (.punctuation legal reads), rfl⟩
          | string content =>
              obtain ⟨located, reads, rfl⟩ := ih rest (pos + gap.length + (content.length + 2))
              refine ⟨(pos + gap.length, .string content) :: located, reads_gap space ?_, rfl⟩
              have spelled := JsmnReads.string legal reads
              simpa [Lexeme.text] using spelled
          | literal literal =>
              obtain ⟨located, reads, rfl⟩ := ih rest (pos + gap.length + literal.length)
              have ended := endsPrimitive_of_laidOut later (apart literal rfl)
              exact ⟨_, reads_gap space (.literal legal ended reads), rfl⟩

/-! ## Trees -/

theorem separable_punctuation {byte : UInt8} (mark : isJsmnPunctuation byte = true)
    {lexemes : List Lexeme} (later : Separable lexemes) :
    Separable (.punctuation byte :: lexemes) :=
  .cons mark (nofun) later

theorem startsSeparator_punctuation {byte : UInt8} (ends : endsPrimitive byte = true)
    (lexemes : List Lexeme) : StartsSeparator (.punctuation byte :: lexemes) := by
  rintro _ _ ⟨⟩
  exact ⟨byte, rfl, ends⟩

theorem startsSeparator_furtherElements (elements : List JsonTree) (rest : List Lexeme) :
    StartsSeparator (furtherElements elements ++ rest) := by
  cases elements with
  | nil => exact startsSeparator_punctuation (by decide) _
  | cons element elements => exact startsSeparator_punctuation (by decide) _

theorem startsSeparator_furtherMembers (members : List (Bytes × JsonTree)) (rest : List Lexeme) :
    StartsSeparator (furtherMembers members ++ rest) := by
  cases members with
  | nil => exact startsSeparator_punctuation (by decide) _
  | cons member members => exact startsSeparator_punctuation (by decide) _

theorem separable_member {name : Bytes} {lexemes : List Lexeme} (legal : IsStringContent name)
    (later : Separable lexemes) :
    Separable (.string name :: .punctuation colon :: lexemes) :=
  .cons (isJsmnString_of_isStringContent legal) (nofun)
    (separable_punctuation (by decide) later)

theorem isPrimitive_of_wellFormed {text : Bytes} (wellFormed : (JsonTree.literal text).WellFormed) :
    IsPrimitive text := by
  have letters : ∀ name : String, (ascii name).all isPrimitiveByte = true →
      (∃ first others, ascii name = first :: others ∧ isJsmnPunctuation first = false ∧
        first ≠ quote) → IsPrimitive (ascii name) := fun name inside starts =>
    ⟨List.all_eq_true.mp inside, starts⟩
  rcases wellFormed with rfl | rfl | rfl | number
  · exact letters "true" (by decide) ⟨_, _, rfl, by decide, by decide⟩
  · exact letters "false" (by decide) ⟨_, _, rfl, by decide, by decide⟩
  · exact letters "null" (by decide) ⟨_, _, rfl, by decide, by decide⟩
  · exact isPrimitive_of_isNumber number

mutual

theorem separable_lexemes : ∀ (tree : JsonTree), tree.WellFormed → ∀ (rest : List Lexeme),
    Separable rest → StartsSeparator rest → Separable (tree.lexemes ++ rest)
  | .literal text, wellFormed, rest, later, starts =>
      .cons (isPrimitive_of_wellFormed wellFormed) (fun _ _ => starts) later
  | .string content, wellFormed, rest, later, starts =>
      .cons (isJsmnString_of_isStringContent wellFormed) (nofun) later
  | .array [], _, rest, later, _ =>
      separable_punctuation (by decide) (separable_punctuation (by decide) later)
  | .array (element :: elements), wellFormed, rest, later, _ => by
      rw [JsonTree.lexemes, List.cons_append, List.append_assoc]
      exact separable_punctuation (by decide)
        (separable_lexemes element wellFormed.1 _
          (separable_furtherElements elements wellFormed.2 rest later)
          (startsSeparator_furtherElements elements rest))
  | .object [], _, rest, later, _ =>
      separable_punctuation (by decide) (separable_punctuation (by decide) later)
  | .object ((name, value) :: members), wellFormed, rest, later, _ => by
      rw [JsonTree.lexemes, List.cons_append, List.cons_append, List.cons_append,
        List.append_assoc]
      exact separable_punctuation (by decide) (separable_member wellFormed.1
        (separable_lexemes value wellFormed.2.1 _
          (separable_furtherMembers members wellFormed.2.2 rest later)
          (startsSeparator_furtherMembers members rest)))

theorem separable_furtherElements : ∀ (elements : List JsonTree), elementsWellFormed elements →
    ∀ (rest : List Lexeme), Separable rest → Separable (furtherElements elements ++ rest)
  | [], _, rest, later => separable_punctuation (by decide) later
  | element :: elements, wellFormed, rest, later => by
      rw [furtherElements, List.cons_append, List.append_assoc]
      exact separable_punctuation (by decide)
        (separable_lexemes element wellFormed.1 _
          (separable_furtherElements elements wellFormed.2 rest later)
          (startsSeparator_furtherElements elements rest))

theorem separable_furtherMembers : ∀ (members : List (Bytes × JsonTree)),
    membersWellFormed members →
      ∀ (rest : List Lexeme), Separable rest → Separable (furtherMembers members ++ rest)
  | [], _, rest, later => separable_punctuation (by decide) later
  | (name, value) :: members, wellFormed, rest, later => by
      rw [furtherMembers, List.cons_append, List.cons_append, List.cons_append,
        List.append_assoc]
      exact separable_punctuation (by decide) (separable_member wellFormed.1
        (separable_lexemes value wellFormed.2.1 _
          (separable_furtherMembers members wellFormed.2.2 rest later)
          (startsSeparator_furtherMembers members rest)))

end

/-- **The tokenizer reads a JSON text as its lexemes.** -/
theorem exists_reads_of_isJsonText {text : Bytes} {tree : JsonTree} (json : IsJsonText text tree) :
    ∃ located, JsmnReads 0 text located ∧ located.map Prod.snd = tree.lexemes := by
  have separable := separable_lexemes tree json.1 [] .nil (nofun)
  rw [List.append_nil] at separable
  exact exists_reads_of_laidOut json.2 separable 0

/-! ## Brackets of trees -/

mutual

/-- **The brackets of a tree match**, whatever is open around it. -/
theorem bracketsMatch_lexemes : ∀ (tree : JsonTree) (opened : List JsmnType)
    (rest : List Lexeme), bracketsMatch opened (tree.lexemes ++ rest) = bracketsMatch opened rest
  | .literal _, _, _ => rfl
  | .string _, _, _ => rfl
  | .array [], _, _ => rfl
  | .array (element :: elements), opened, rest => by
      rw [JsonTree.lexemes, List.cons_append, List.append_assoc]
      change bracketsMatch (.array :: opened) _ = _
      rw [bracketsMatch_lexemes element, bracketsMatch_furtherElements elements]
  | .object [], _, _ => rfl
  | .object ((_, value) :: members), opened, rest => by
      rw [JsonTree.lexemes, List.cons_append, List.cons_append, List.cons_append,
        List.append_assoc]
      change bracketsMatch (.object :: opened)
        (value.lexemes ++ (furtherMembers members ++ rest)) = _
      rw [bracketsMatch_lexemes value, bracketsMatch_furtherMembers members]

theorem bracketsMatch_furtherElements : ∀ (elements : List JsonTree) (opened : List JsmnType)
    (rest : List Lexeme),
    bracketsMatch (.array :: opened) (furtherElements elements ++ rest) = bracketsMatch opened rest
  | [], _, _ => rfl
  | element :: elements, opened, rest => by
      rw [furtherElements, List.cons_append, List.append_assoc]
      change bracketsMatch (.array :: opened)
        (element.lexemes ++ (furtherElements elements ++ rest)) = _
      rw [bracketsMatch_lexemes element, bracketsMatch_furtherElements elements]

theorem bracketsMatch_furtherMembers : ∀ (members : List (Bytes × JsonTree))
    (opened : List JsmnType) (rest : List Lexeme),
    bracketsMatch (.object :: opened) (furtherMembers members ++ rest) = bracketsMatch opened rest
  | [], _, _ => rfl
  | (_, value) :: members, opened, rest => by
      rw [furtherMembers, List.cons_append, List.cons_append, List.cons_append,
        List.append_assoc]
      change bracketsMatch (.object :: opened)
        (value.lexemes ++ (furtherMembers members ++ rest)) = _
      rw [bracketsMatch_lexemes value, bracketsMatch_furtherMembers members]

end

/-! ## The lexemes of a text -/

/-- **Lexemes and whitespace are all there is to a text** without NUL bytes. -/
theorem JsmnReads.laidOut {pos : Nat} {text : Bytes} {located : List (Nat × Lexeme)}
    (reads : JsmnReads pos text located) (clean : 0 ∉ text) :
    LaidOut (located.map Prod.snd) text := by
  have more : ∀ {byte : UInt8} {rest : Bytes} {lexemes : List Lexeme},
      isJsonWhitespace byte = true → LaidOut lexemes rest → LaidOut lexemes (byte :: rest) := by
    intro byte rest lexemes space layout
    cases layout with
    | blank gap => exact .blank (List.forall_mem_cons.mpr ⟨space, gap⟩)
    | lexeme gap later =>
        rw [← List.cons_append]
        exact .lexeme (List.forall_mem_cons.mpr ⟨space, gap⟩) later
  have direct : ∀ {lexeme : Lexeme} {rest : Bytes} {lexemes : List Lexeme},
      LaidOut lexemes rest → LaidOut (lexeme :: lexemes) (lexeme.text ++ rest) := fun layout =>
    @LaidOut.lexeme [] _ _ _ (nofun) layout
  induction reads with
  | finish pos => exact .blank (nofun)
  | terminator pos rest => exact absurd List.mem_cons_self clean
  | blank space later ih => exact more space (ih fun inside => clean (.tail _ inside))
  | punctuation mark later ih => exact direct (ih fun inside => clean (.tail _ inside))
  | @string pos content rest located legal later ih =>
      have layout := @direct (.string content) _ _ (ih fun inside => clean (by simp [inside]))
      simpa [Lexeme.text] using layout
  | literal legal ended later ih =>
      exact direct (ih fun inside => clean (List.mem_append_right _ inside))

/-- The lexemes of a text, as long as the bound lasts. -/
def lexemesFrom : Nat → Nat → Bytes → List (Nat × Lexeme)
  | 0, _, _ => []
  | _ + 1, _, [] => []
  | bound + 1, pos, byte :: rest =>
      if byte = 0 then []
      else if isJsonWhitespace byte = true then lexemesFrom bound (pos + 1) rest
      else if isJsmnPunctuation byte = true then
        (pos, .punctuation byte) :: lexemesFrom bound (pos + 1) rest
      else if byte = quote then
        match jsmnStringEnd 0 rest with
        | .error _ => []
        | .ok length =>
            (pos, .string (rest.take length)) ::
              lexemesFrom bound (pos + (length + 2)) (rest.drop (length + 1))
      else
        match jsmnPrimitiveEnd 0 (byte :: rest) with
        | none => []
        | some length =>
            (pos, .literal ((byte :: rest).take length)) ::
              lexemesFrom bound (pos + length) ((byte :: rest).drop length)

theorem lexemesFrom_of_reads {pos : Nat} {text : Bytes} {located : List (Nat × Lexeme)}
    (reads : JsmnReads pos text located) {bound : Nat} (enough : text.length ≤ bound) :
    lexemesFrom bound pos text = located := by
  induction reads generalizing bound with
  | finish pos => cases bound <;> rfl
  | terminator pos rest =>
      cases bound with
      | zero => rfl
      | succ bound => rw [lexemesFrom, if_pos rfl]
  | @blank pos byte rest located space later ih =>
      obtain ⟨bound, rfl⟩ : ∃ more, bound = more + 1 := ⟨bound - 1, by simp at enough; omega⟩
      have nonzero : byte ≠ 0 := by
        rintro rfl
        exact absurd space (by decide)
      rw [lexemesFrom, if_neg nonzero, if_pos space, ih (by simpa using enough)]
  | @punctuation pos byte rest located mark later ih =>
      obtain ⟨bound, rfl⟩ : ∃ more, bound = more + 1 := ⟨bound - 1, by simp at enough; omega⟩
      have unblank : ¬isJsonWhitespace byte = true := by
        intro space
        simp only [isJsonWhitespace, Bool.or_eq_true, beq_iff_eq] at space
        rcases space with ((rfl | rfl) | rfl) | rfl
        all_goals exact absurd mark (by decide)
      have nonzero : byte ≠ 0 := by
        rintro rfl
        exact absurd mark (by decide)
      rw [lexemesFrom, if_neg nonzero, if_neg unblank, if_pos mark, ih (by simpa using enough)]
  | @string pos content rest located legal later ih =>
      obtain ⟨bound, rfl⟩ : ∃ more, bound = more + 1 := ⟨bound - 1, by simp at enough; omega⟩
      have inside := jsmnStringEnd_of_reads legal rest 0
      rw [Nat.zero_add] at inside
      have behind : (content ++ quote :: rest).drop (content.length + 1) = rest := by
        rw [← List.drop_drop, List.drop_left]
        rfl
      rw [lexemesFrom, if_neg (by decide), if_neg (by decide), if_neg (by decide), if_pos rfl,
        inside]
      dsimp only
      rw [List.take_left, behind, ih (by simp at enough; omega)]
  | @literal pos text rest located legal ended later ih =>
      obtain ⟨inside, first, others, rfl, unmarked, unquoted⟩ := legal
      obtain ⟨bound, rfl⟩ : ∃ more, bound = more + 1 := ⟨bound - 1, by simp at enough; omega⟩
      have head := inside first List.mem_cons_self
      have nonzero : first ≠ 0 := by
        rintro rfl
        exact absurd head (by decide)
      have unblank : ¬isJsonWhitespace first = true := fun space => by
        simp [isPrimitiveByte, endsPrimitive, space] at head
      have scanned := jsmnPrimitiveEnd_of_reads 0 inside ended
      rw [Nat.zero_add] at scanned
      rw [List.cons_append, lexemesFrom, if_neg nonzero, if_neg unblank,
        if_neg (Bool.eq_false_iff.mp unmarked), if_neg unquoted, ← List.cons_append, scanned]
      dsimp only
      rw [List.take_left, List.drop_left, ih (by simp at enough ⊢; omega)]

/-- **A text falls into lexemes in one way only.** -/
theorem JsmnReads.unique {pos : Nat} {text : Bytes} {first second : List (Nat × Lexeme)}
    (one : JsmnReads pos text first) (two : JsmnReads pos text second) : first = second :=
  (lexemesFrom_of_reads one (Nat.le_refl _)).symm.trans (lexemesFrom_of_reads two (Nat.le_refl _))

end FlightComputer.Firmware
