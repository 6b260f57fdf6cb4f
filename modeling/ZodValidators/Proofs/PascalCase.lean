import ZodValidators.Naming
import ZodValidators.Sdl.Lexer

/-!
# Pascal case in one pass

A name of ASCII letters, digits and underscores is put into pascal case by one scan from left to
right: underscores are left out, a character that starts a word becomes a capital, and every other
one becomes small. Whether a character starts a word depends on its two neighbours only. The first
marking may skip a word that directly follows a marked one, and the second marking finds exactly
these.
-/

set_option autoImplicit false

namespace ZodValidators.Naming

open ZodValidators.Text

/-! ## The scan -/

/-- A capital that starts a word by its neighbours: a small letter or a digit stands before it, or a
small letter behind it. -/
def isWordCapital (before character : Char) (behind : List Char) : Bool :=
  character.isUpper && (before.isLower || before.isDigit || behind.head?.any Char.isLower)

def startsAt (before : Option Char) (character : Char) (behind : List Char) : Bool :=
  match before with
  | none => true
  | some previous => previous = '_' || isWordCapital previous character behind

def scan (before : Option Char) : List Char → List Char
  | [] => []
  | character :: behind =>
    if character = '_' then scan (some character) behind
    else
      (if startsAt before character behind then character.toUpper else character.toLower) ::
        scan (some character) behind

/-! ## ASCII characters -/

/-- What holds of the 128 ASCII characters can be decided for each of them. -/
theorem of_ascii (property : Char → Prop) (each : ∀ code < 0x80, property (Char.ofNat code))
    {character : Char} (ascii : character.toNat < 0x80) : property character := by
  simpa using each character.toNat ascii

theorem toNat_toLower {character : Char} (ascii : character.toNat < 0x80) :
    character.toLower.toNat < 0x80 :=
  of_ascii (fun character => character.toLower.toNat < 0x80) (by decide) ascii

theorem toLower_toLower {character : Char} (ascii : character.toNat < 0x80) :
    character.toLower.toLower = character.toLower :=
  of_ascii (fun character => character.toLower.toLower = character.toLower) (by decide) ascii

theorem toUpper_toLower {character : Char} (ascii : character.toNat < 0x80) :
    character.toLower.toUpper = character.toUpper :=
  of_ascii (fun character => character.toLower.toUpper = character.toUpper) (by decide) ascii

theorem toLower_ne_underscore {character : Char} (ascii : character.toNat < 0x80)
    (letter : character ≠ '_') : character.toLower ≠ '_' :=
  of_ascii (fun character => character ≠ '_' → character.toLower ≠ '_') (by decide) ascii letter

theorem between_of_le {character : Char} (first last : Char)
    (between : first.val ≤ character.val ∧ character.val ≤ last.val) :
    first.toNat ≤ character.toNat ∧ character.toNat ≤ last.toNat :=
  between.imp UInt32.le_iff_toNat_le.mp UInt32.le_iff_toNat_le.mp

theorem between_of_isUpper {character : Char} (capital : character.isUpper = true) :
    65 ≤ character.toNat ∧ character.toNat ≤ 90 :=
  between_of_le 'A' 'Z' (of_decide_eq_true capital)

theorem between_of_isLower {character : Char} (small : character.isLower = true) :
    97 ≤ character.toNat ∧ character.toNat ≤ 122 :=
  between_of_le 'a' 'z' ((Bool.and_eq_true_iff.mp small).imp of_decide_eq_true of_decide_eq_true)

theorem between_of_isDigit {character : Char} (digit : character.isDigit = true) :
    48 ≤ character.toNat ∧ character.toNat ≤ 57 :=
  between_of_le '0' '9' ((Bool.and_eq_true_iff.mp digit).imp of_decide_eq_true of_decide_eq_true)

theorem isUpper_eq_false_of_isLower {character : Char} (small : character.isLower = true) :
    character.isUpper = false := by
  rw [← Bool.not_eq_true]
  intro capital
  have smallBounds := between_of_isLower small
  have capitalBounds := between_of_isUpper capital
  omega

theorem ascii_of_isNameCharacter {character : Char}
    (plain : Sdl.isNameCharacter character = true) : character.toNat < 0x80 := by
  rw [Sdl.isNameCharacter, Bool.or_eq_true, decide_eq_true_eq] at plain
  rcases plain with alphanumeric | rfl
  · change ((character.isUpper || character.isLower) || character.isDigit) = true at alphanumeric
    rw [Bool.or_eq_true, Bool.or_eq_true] at alphanumeric
    rcases alphanumeric with (capital | small) | digit
    · have bounds := between_of_isUpper capital
      omega
    · have bounds := between_of_isLower small
      omega
    · have bounds := between_of_isDigit digit
      omega
  · decide

/-! ## Both markings -/

/-- The characters that follow `before` with an underscore in front of every capital that starts a
word by its neighbours. -/
def marked (before : Char) : List Char → List Char
  | [] => []
  | character :: behind =>
    if isWordCapital before character behind then '_' :: character :: marked character behind
    else character :: marked character behind

theorem startsWord_ofChars (characters : List Char) :
    startsWord (ofChars characters) =
      (characters.head?.any Char.isUpper && characters.tail.head?.any Char.isLower) := by
  match characters with
  | [] => rfl
  | [_] => simp [startsWord, ofChars]
  | _ :: _ :: _ => rfl

theorem head?_markWords (place : Place) (text : Text) :
    (markWords place text).head? = text.head? := by
  fun_cases markWords place text <;> rfl

theorem markCapitals_cons (first : CodePoint) (rest : Text) :
    markCapitals (first :: rest) =
      if (isSmall first || isDigit first) && rest.head?.any isCapital then
        first :: underscore :: markCapitals rest
      else first :: markCapitals rest := by
  cases rest with
  | nil => simp [markCapitals]
  | cons second others => rfl

theorem markCapitals_cons_underscore_cons (first : CodePoint) (rest : Text) :
    markCapitals (first :: underscore :: rest) = first :: underscore :: markCapitals rest := by
  have notCapital : isCapital underscore = false := by decide
  have notBefore : (isSmall underscore || isDigit underscore) = false := by decide
  rw [markCapitals_cons, markCapitals_cons, List.head?_cons, Option.any_some, notCapital, notBefore,
    Bool.and_false, Bool.false_and, if_neg Bool.false_ne_true, if_neg Bool.false_ne_true]

theorem markWords_outside {place : Place} {first : Char} {rest : Text}
    (outside : place = .outside ∨ place = .inside ∧ first.isLower = false) (plain : first ≠ '\n') :
    markWords place (.char first :: rest) =
      if startsWord rest then .char first :: underscore :: markWords .atCapital rest
      else .char first :: markWords .outside rest := by
  have notFeed : CodePoint.char first ≠ .char '\n' := fun same => plain (CodePoint.char.inj same)
  rcases outside with rfl | ⟨rfl, large⟩
  · simp [markWords, notFeed]
  · have notSmall : isSmall (.char first) = false := large
    simp [markWords, notFeed, notSmall]

/-- The second marking decides alone between two characters that the first one does not part. -/
theorem markCapitals_cons_of_unparted {first second : Char} {others : List Char} {rest : Text}
    (head : rest.head? = some (.char second))
    (tail : markCapitals rest = ofChars (second :: marked second others))
    (unparted : isWordCapital first second others =
      ((first.isLower || first.isDigit) && second.isUpper)) :
    markCapitals (.char first :: rest) = ofChars (first :: marked first (second :: others)) := by
  have decided : ((isSmall (.char first) || isDigit (.char first)) &&
      (some (CodePoint.char second)).any isCapital) = isWordCapital first second others :=
    unparted.symm
  rw [markCapitals_cons, head, decided, tail, marked]
  cases isWordCapital first second others <;> rfl

/-- The underscores of both markings together. The induction is on the characters behind the first
one, for every place at which the first marking may stand. -/
theorem markCapitals_markWords {place : Place} {first : Char} {rest : List Char}
    (fits : place = .atCapital → startsWord (ofChars (first :: rest)) = true)
    (plain : ∀ character ∈ first :: rest, character ≠ '\n') :
    markCapitals (markWords place (ofChars (first :: rest))) =
      ofChars (first :: marked first rest) := by
  induction rest generalizing place first with
  | nil =>
      have kept : markWords place (ofChars [first]) = ofChars [first] := by
        cases place <;> simp [markWords, ofChars, startsWord]
      rw [kept]
      rfl
  | cons second others ih =>
      have plainRest := fun character member => plain character (List.mem_cons_of_mem first member)
      have head (next : Place) :
          (markWords next (ofChars (second :: others))).head? = some (.char second) :=
        head?_markWords next _
      -- Outside of a marked word the first marking looks at the next two characters.
      have outside (isOutside : place = .outside ∨ place = .inside ∧ first.isLower = false) :
          markCapitals (markWords place (ofChars (first :: second :: others))) =
            ofChars (first :: marked first (second :: others)) := by
        have start := startsWord_ofChars (second :: others)
        simp only [List.head?_cons, Option.any_some, List.tail_cons] at start
        rw [ofChars, List.map_cons, ← ofChars, markWords_outside isOutside (plain _ (by simp))]
        cases word : startsWord (ofChars (second :: others)) with
        | true =>
            rw [word, eq_comm, Bool.and_eq_true] at start
            have parted : isWordCapital first second others = true := by
              simp [isWordCapital, start]
            rw [if_pos rfl, markCapitals_cons_underscore_cons, ih (fun _ => word) plainRest, marked,
              if_pos parted]
            rfl
        | false =>
            rw [word] at start
            have unparted : isWordCapital first second others =
                ((first.isLower || first.isDigit) && second.isUpper) := by
              revert start
              rw [isWordCapital]
              cases second.isUpper <;> cases others.head?.any Char.isLower <;> simp
            exact markCapitals_cons_of_unparted (head .outside) (ih (by simp) plainRest) unparted
      cases place with
      | outside => exact outside (.inl rfl)
      | atCapital =>
          have start := fits rfl
          rw [startsWord_ofChars, Bool.and_eq_true] at start
          have small := isUpper_eq_false_of_isLower start.2
          have unparted : isWordCapital first second others =
              ((first.isLower || first.isDigit) && second.isUpper) := by
            rw [isWordCapital, small, Bool.false_and, Bool.and_false]
          exact markCapitals_cons_of_unparted (head .inside) (ih (by simp) plainRest) unparted
      | inside =>
          cases small : first.isLower with
          | false => exact outside (.inr ⟨rfl, small⟩)
          | true =>
              have smallPoint : isSmall (.char first) = true := small
              have next : markWords .inside (ofChars (first :: second :: others)) =
                  .char first :: markWords .inside (ofChars (second :: others)) := by
                simp [ofChars, markWords, smallPoint]
              have unparted : isWordCapital first second others =
                  ((first.isLower || first.isDigit) && second.isUpper) := by
                simp [isWordCapital, small]
              rw [next]
              exact markCapitals_cons_of_unparted (head .inside) (ih (by simp) plainRest) unparted

theorem mem_marked {before character : Char} {characters : List Char}
    (member : character ∈ marked before characters) :
    character = '_' ∨ character ∈ characters := by
  induction characters generalizing before with
  | nil => cases member
  | cons first rest ih =>
      rw [marked] at member
      have found : character = '_' ∨ character = first ∨ character ∈ marked first rest := by
        split at member
        · simpa using member
        · exact .inr (by simpa using member)
      rcases found with underscore | same | later
      · exact .inl underscore
      · exact .inr (same ▸ List.mem_cons_self)
      · exact (ih later).imp_right (List.mem_cons_of_mem _)

theorem marked_ascii {before : Char} {characters : List Char}
    (ascii : ∀ character ∈ characters, character.toNat < 0x80) :
    ∀ character ∈ marked before characters, character.toNat < 0x80 := by
  intro character member
  rcases mem_marked member with rfl | listed
  · decide
  · exact ascii character listed

/-! ## Words put together -/

theorem lowerAfter_ofChars {characters : List Char}
    (ascii : ∀ character ∈ characters, character.toNat < 0x80) (before : Text) :
    lowerAfter before (ofChars characters) = ofChars (characters.map Char.toLower) := by
  induction characters generalizing before with
  | nil => rfl
  | cons first rest ih =>
      rw [List.forall_mem_cons] at ascii
      have notSigma : first ≠ 'Σ' := by
        rintro rfl
        exact absurd ascii.1 (by decide)
      have lowered : convertChar lowerCharacter (.char first) = ofChars [first.toLower] := by
        rw [convertChar, lowerCharacter, if_pos ascii.1]
      rw [ofChars, List.map_cons, ← ofChars, lowerAfter, lowered, ih ascii.2]
      · rfl
      · simpa using notSigma

theorem capitalize_ofChars {first : Char} {rest : List Char}
    (ascii : ∀ character ∈ first :: rest, character.toNat < 0x80) :
    capitalize (ofChars (first :: rest)) = ofChars (first.toUpper :: rest.map Char.toLower) := by
  rw [List.forall_mem_cons] at ascii
  have title : convertChar titleCharacter (.char first) = ofChars [first.toUpper] := by
    rw [convertChar, titleCharacter, if_pos ascii.1]
  rw [ofChars, List.map_cons, ← ofChars, capitalize, title, lowerAfter_ofChars ascii.2]
  rfl

theorem exists_words_ofChars (characters : List Char) :
    ∃ word others, words (ofChars characters) = ofChars word :: others ∧ word ⊆ characters := by
  induction characters with
  | nil => exact ⟨[], [], rfl, List.Subset.refl _⟩
  | cons first rest ih =>
      obtain ⟨word, others, parts, inside⟩ := ih
      by_cases mark : CodePoint.char first = underscore
      · exact ⟨[], words (ofChars rest), if_pos mark, List.nil_subset _⟩
      · refine ⟨first :: word, others, ?_, List.cons_subset_cons first inside⟩
        rw [ofChars, List.map_cons, ← ofChars, words, if_neg mark, parts]
        rfl

/-- The words of the characters in lower case, capitalized and put together. -/
def joined (characters : List Char) : Text :=
  (words (ofChars (characters.map Char.toLower))).flatMap capitalize

/-- The same for characters that go on inside a word. -/
def continued (characters : List Char) : Text :=
  match words (ofChars (characters.map Char.toLower)) with
  | [] => []
  | word :: others => word ++ others.flatMap capitalize

theorem joined_underscore_cons (rest : List Char) : joined ('_' :: rest) = joined rest := by
  have parts : words (ofChars (('_' :: rest).map Char.toLower)) =
      [] :: words (ofChars (rest.map Char.toLower)) := if_pos rfl
  rw [joined, parts, List.flatMap_cons]
  rfl

theorem continued_underscore_cons (rest : List Char) : continued ('_' :: rest) = joined rest := by
  have parts : words (ofChars (('_' :: rest).map Char.toLower)) =
      [] :: words (ofChars (rest.map Char.toLower)) := if_pos rfl
  rw [continued, parts]
  rfl

theorem joined_cons {first : Char} {rest : List Char} (letter : first ≠ '_')
    (ascii : ∀ character ∈ first :: rest, character.toNat < 0x80) :
    joined (first :: rest) = .char first.toUpper :: continued rest := by
  obtain ⟨word, others, parts, inside⟩ := exists_words_ofChars (rest.map Char.toLower)
  have firstAscii := ascii first List.mem_cons_self
  have different : CodePoint.char first.toLower ≠ underscore :=
    fun same => toLower_ne_underscore firstAscii letter (CodePoint.char.inj same)
  have extended : words (ofChars ((first :: rest).map Char.toLower)) =
      ofChars (first.toLower :: word) :: others := by
    rw [List.map_cons, ofChars, List.map_cons, ← ofChars, words,
      if_neg different, parts]
    rfl
  have wordAscii : ∀ character ∈ first.toLower :: word, character.toNat < 0x80 := by
    intro character member
    have mapped : character ∈ (first :: rest).map Char.toLower :=
      List.cons_subset_cons _ inside member
    obtain ⟨original, listed, rfl⟩ := List.mem_map.mp mapped
    exact toNat_toLower (ascii original listed)
  have small : word.map Char.toLower = word := by
    apply (List.map_congr_left _).trans (List.map_id _)
    intro character member
    obtain ⟨original, listed, rfl⟩ := List.mem_map.mp (inside member)
    exact toLower_toLower (ascii original (List.mem_cons_of_mem _ listed))
  rw [joined, extended, List.flatMap_cons, capitalize_ofChars wordAscii, small,
    toUpper_toLower firstAscii, continued, parts]
  rfl

theorem continued_cons {first : Char} {rest : List Char} (letter : first ≠ '_')
    (ascii : first.toNat < 0x80) :
    continued (first :: rest) = .char first.toLower :: continued rest := by
  obtain ⟨word, others, parts, _⟩ := exists_words_ofChars (rest.map Char.toLower)
  have different : CodePoint.char first.toLower ≠ underscore :=
    fun same => toLower_ne_underscore ascii letter (CodePoint.char.inj same)
  rw [continued, continued, List.map_cons, ofChars, List.map_cons, ← ofChars, words,
    if_neg different, parts]
  rfl

/-! ## One pass -/

/-- The scan goes on inside a word behind any character but an underscore, and starts a new word
behind an underscore. -/
theorem scan_some (before : Char) {characters : List Char}
    (ascii : ∀ character ∈ characters, character.toNat < 0x80) :
    ofChars (scan (some before) characters) =
      if before = '_' then joined (marked before characters)
      else continued (marked before characters) := by
  induction characters generalizing before with
  | nil => split <;> rfl
  | cons first rest ih =>
      have asciiMarked : ∀ character ∈ first :: marked first rest, character.toNat < 0x80 := by
        rw [List.forall_mem_cons] at ascii ⊢
        exact ⟨ascii.1, marked_ascii ascii.2⟩
      rw [List.forall_mem_cons] at ascii
      have following := ih first ascii.2
      by_cases mark : first = '_'
      · subst first
        have kept : marked before ('_' :: rest) = '_' :: marked '_' rest := rfl
        rw [if_pos rfl] at following
        rw [scan, if_pos rfl, following, kept, joined_underscore_cons, continued_underscore_cons,
          ite_self]
      · rw [if_neg mark] at following
        have initial : ofChars (first.toUpper :: scan (some first) rest) =
            joined (first :: marked first rest) := by
          rw [joined_cons mark asciiMarked, ← following]
          rfl
        have medial : ofChars (first.toLower :: scan (some first) rest) =
            continued (first :: marked first rest) := by
          rw [continued_cons mark ascii.1, ← following]
          rfl
        rw [scan, if_neg mark, startsAt, marked]
        by_cases start : before = '_'
        · rw [if_pos start, decide_eq_true start, Bool.true_or, if_pos rfl, initial]
          split
          · rw [joined_underscore_cons]
          · rfl
        · rw [if_neg start, decide_eq_false start, Bool.false_or]
          split
          · rw [initial, continued_underscore_cons]
          · exact medial

/-- The pascal case of a name of ASCII letters, digits and underscores is its scan. -/
theorem pascalCase_ofChars {characters : List Char}
    (plain : ∀ character ∈ characters, Sdl.isNameCharacter character = true) :
    pascalCase (ofChars characters) = ofChars (scan none characters) := by
  cases characters with
  | nil => rfl
  | cons first rest =>
      have ascii : ∀ character ∈ first :: rest, character.toNat < 0x80 :=
        fun character member => ascii_of_isNameCharacter (plain character member)
      have noFeed : ∀ character ∈ first :: rest, character ≠ '\n' := by
        rintro _ member rfl
        exact absurd (plain _ member) (by decide)
      rw [List.forall_mem_cons] at ascii
      have asciiMarked : ∀ character ∈ first :: marked first rest, character.toNat < 0x80 :=
        List.forall_mem_cons.mpr ⟨ascii.1, marked_ascii ascii.2⟩
      have together : pascalCase (ofChars (first :: rest)) = joined (first :: marked first rest) := by
        rw [pascalCase, markCapitals_markWords (by simp) noFeed, lower,
          lowerAfter_ofChars asciiMarked, joined]
      have following := scan_some first ascii.2
      rw [together, scan]
      by_cases mark : first = '_'
      · subst first
        rw [if_pos rfl, following, if_pos rfl, joined_underscore_cons]
      · rw [if_neg mark] at following ⊢
        rw [joined_cons mark asciiMarked, ← following]
        rfl

theorem pascalCase_userName :
    (∀ character ∈ "_getURLFor2ndUser__id".toList, Sdl.isNameCharacter character = true) ∧
      scan none "_getURLFor2ndUser__id".toList = "GetUrlFor2ndUserId".toList ∧
      pascalCase "_getURLFor2ndUser__id" = "GetUrlFor2ndUserId" := by
  have plain : ∀ character ∈ "_getURLFor2ndUser__id".toList,
      Sdl.isNameCharacter character = true := List.all_eq_true.mp (by decide)
  have scanned : scan none "_getURLFor2ndUser__id".toList = "GetUrlFor2ndUserId".toList := by
    decide
  exact ⟨plain, scanned, (pascalCase_ofChars plain).trans (congrArg ofChars scanned)⟩

end ZodValidators.Naming
