import CircuitBreaker.Text.Blank
import CircuitBreaker.Text.Words
import Mathlib.Data.List.DropRight
import Mathlib.Data.List.TakeWhile

/-!
# Words with gaps in front

A text without blanks at its ends is a word and further ones, each after one or more gaps. Its words
are then these, and no other words can be laid out as this text.
-/

set_option autoImplicit false

namespace CircuitBreaker.Text

/-- Something without a gap in it. -/
def Solid (word : List Char) : Prop := word ≠ [] ∧ ∀ char ∈ word, isGap char = false

/-- A text that is over or starts with a gap. -/
def Parted (text : List Char) : Prop := ∀ char ∈ text.head?, isGap char = true

/-- Words one after the other, each after one or more gaps. -/
inductive Follows : List (List Char) → List Char → Prop
  | done : Follows [] []
  | next {word gap rest : List Char} {words : List (List Char)} (apart : gap ≠ [])
      (gaps : ∀ char ∈ gap, isGap char = true) (others : Follows words rest) :
      Follows (word :: words) (gap ++ word ++ rest)

theorem parted_append {gap : List Char} (apart : gap ≠ [])
    (gaps : ∀ char ∈ gap, isGap char = true) (rest : List Char) : Parted (gap ++ rest) := by
  cases gap with
  | nil => exact absurd rfl apart
  | cons first others =>
      intro char head
      cases head
      exact gaps first List.mem_cons_self

theorem words_gaps {gap : List Char} (gaps : ∀ char ∈ gap, isGap char = true) (rest : List Char) :
    words (gap ++ rest) = words rest := by
  induction gap with
  | nil => rfl
  | cons first others ih =>
      obtain ⟨leading, following⟩ := List.forall_mem_cons.mp gaps
      rw [← ih following, List.cons_append, words, pieces, if_pos leading]
      rfl

theorem pieces_append {word rest : List Char} (solid : ∀ char ∈ word, isGap char = false)
    (parted : Parted rest) :
    ∃ others, pieces (word ++ rest) = word :: others ∧
      words rest = others.filter fun piece => !piece.isEmpty := by
  induction word with
  | nil =>
      cases rest with
      | nil => exact ⟨[], rfl, rfl⟩
      | cons gap rest =>
          have leading : isGap gap = true := parted gap rfl
          refine ⟨pieces rest, by rw [List.nil_append, pieces, if_pos leading], ?_⟩
          rw [words, pieces, if_pos leading]
          rfl
  | cons first word ih =>
      obtain ⟨leading, following⟩ := List.forall_mem_cons.mp solid
      obtain ⟨others, found, left⟩ := ih following
      refine ⟨others, ?_, left⟩
      rw [List.cons_append, pieces, if_neg (by simp [leading]), found]

theorem words_append {word rest : List Char} (solid : Solid word) (parted : Parted rest) :
    words (word ++ rest) = word :: words rest := by
  obtain ⟨others, found, left⟩ := pieces_append solid.2 parted
  rw [words, found, left, List.filter_cons_of_pos (by simpa using solid.1)]

namespace Follows

variable {words others : List (List Char)} {word text rest : List Char}

theorem parted (follows : Follows words text) : Parted text := by
  cases follows with
  | done => intro char head; cases head
  | next apart gaps _ =>
      rw [List.append_assoc]
      exact Text.parted_append apart gaps _

theorem parted_append (follows : Follows words text) (parted : Parted rest) :
    Parted (text ++ rest) := by
  cases follows with
  | done => exact parted
  | next apart gaps _ =>
      rw [List.append_assoc, List.append_assoc]
      exact Text.parted_append apart gaps _

theorem append (follows : Follows words text) (more : Follows others rest) :
    Follows (words ++ others) (text ++ rest) := by
  induction follows with
  | done => exact more
  | next apart gaps _ ih =>
      rw [List.append_assoc]
      exact .next apart gaps ih

theorem split (follows : Follows (words ++ others) text) :
    ∃ front back, text = front ++ back ∧ Follows words front ∧ Follows others back := by
  induction words generalizing text with
  | nil => exact ⟨[], text, rfl, .done, follows⟩
  | cons first words ih =>
      cases follows with
      | next apart gaps following =>
          obtain ⟨front, back, rfl, laid, left⟩ := ih following
          exact ⟨_, back, (List.append_assoc _ front back).symm, .next apart gaps laid, left⟩

theorem words_append (follows : Follows words text) (solid : ∀ word ∈ words, Solid word)
    (parted : Parted rest) : Text.words (text ++ rest) = words ++ Text.words rest := by
  induction follows with
  | done => rfl
  | @next word gap after words apart gaps following ih =>
      obtain ⟨here, further⟩ := List.forall_mem_cons.mp solid
      rw [List.append_assoc, List.append_assoc, words_gaps gaps,
        Text.words_append here (following.parted_append parted), ih further, List.cons_append]

theorem words_eq (follows : Follows words text) (solid : ∀ word ∈ words, Solid word) :
    Text.words text = words := by
  have ended : Parted [] := by
    intro char head
    cases head
  have read := follows.words_append solid ended
  rwa [List.append_nil, show Text.words [] = [] from rfl, List.append_nil] at read

end Follows

theorem split_at_gap (text : List Char) :
    ∃ front rest, text = front ++ rest ∧ (∀ char ∈ front, isGap char = false) ∧ Parted rest := by
  refine ⟨_, _, (List.takeWhile_append_dropWhile (p := fun char => !isGap char)).symm, ?_, ?_⟩
  · intro char member
    simpa using List.mem_takeWhile_imp member
  · intro char head
    have ends := List.head?_dropWhile_not (fun char => !isGap char) text
    rw [head] at ends
    simpa using ends

/-- The word in front of a text, and what comes after it. -/
theorem words_of_solid {text : List Char} (nonempty : text ≠ [])
    (leads : ∀ char ∈ text.head?, isGap char = false) :
    ∃ word rest, text = word ++ rest ∧ Solid word ∧ Parted rest ∧
      words text = word :: words rest := by
  obtain ⟨front, rest, rfl, solid, parted⟩ := split_at_gap text
  have filled : front ≠ [] := by
    rintro rfl
    cases rest with
    | nil => exact nonempty rfl
    | cons first rest =>
        have gap : isGap first = true := parted first rfl
        rw [leads first rfl] at gap
        cases gap
  exact ⟨front, rest, rfl, ⟨filled, solid⟩, parted, words_append ⟨filled, solid⟩ parted⟩

/-- The gaps in front of a text, and what comes after them. -/
theorem gaps_of_parted {text : List Char} (nonempty : text ≠ []) (parted : Parted text) :
    ∃ gap body, text = gap ++ body ∧ gap ≠ [] ∧ (∀ char ∈ gap, isGap char = true) ∧
      ∀ char ∈ body.head?, isGap char = false := by
  refine ⟨text.takeWhile isGap, text.dropWhile isGap, List.takeWhile_append_dropWhile.symm, ?_,
    fun char member => List.mem_takeWhile_imp member, fun char head => ?_⟩
  · cases text with
    | nil => exact absurd rfl nonempty
    | cons first rest =>
        have leading : isGap first = true := parted first rfl
        simp [leading]
  · have ends := List.head?_dropWhile_not isGap text
    rw [head] at ends
    simpa using ends

/-- A text that starts with a gap, if with anything, and does not end with one is its words, each
after one or more gaps. -/
theorem follows_words (text : List Char) (parted : Parted text)
    (ends : ∀ char ∈ text.getLast?, isGap char = false) : Follows (words text) text := by
  induction measured : text.length using Nat.strongRecOn generalizing text with
  | ind size ih =>
      by_cases blank : text = []
      · rw [blank]
        exact .done
      obtain ⟨gap, body, rfl, apart, gaps, leads⟩ := gaps_of_parted blank parted
      have solid : body ≠ [] := by
        rintro rfl
        rw [List.append_nil] at ends
        have last := List.getLast?_eq_some_getLast apart
        have gapped := gaps _ (List.getLast_mem apart)
        rw [ends _ last] at gapped
        cases gapped
      obtain ⟨word, rest, rfl, whole, later, read⟩ := words_of_solid solid leads
      -- What comes after the first gap and word is again such a text.
      have shorter : rest.length < size := by
        have filled := List.length_pos_of_ne_nil whole.1
        rw [← measured, List.length_append, List.length_append]
        omega
      have trailing : ∀ char ∈ rest.getLast?, isGap char = false := fun char last =>
        ends char (List.mem_getLast?_append_of_mem_getLast?
          (List.mem_getLast?_append_of_mem_getLast? last))
      have following := ih rest.length shorter rest later trailing rfl
      rw [words_gaps gaps, read, ← List.append_assoc]
      exact .next apart gaps following

/-- A text without gaps at its ends is its first word and the others, each after one or more
gaps. -/
theorem laid_of_words {text : List Char} (leads : ∀ char ∈ text.head?, isGap char = false)
    (ends : ∀ char ∈ text.getLast?, isGap char = false) {word : List Char}
    {others : List (List Char)} (read : words text = word :: others) :
    ∃ rest, text = word ++ rest ∧ Follows others rest := by
  have nonempty : text ≠ [] := by
    rintro rfl
    cases read
  obtain ⟨front, rest, rfl, _, parted, found⟩ := words_of_solid nonempty leads
  rw [found, List.cons.injEq] at read
  obtain ⟨rfl, rfl⟩ := read
  exact ⟨rest, rfl, follows_words rest parted fun char last =>
    ends char (List.mem_getLast?_append_of_mem_getLast? last)⟩

/-- No blank stands at an end. -/
def Trimmed (text : List Char) : Prop :=
  (∀ char ∈ text.head?, isBlank char = false) ∧ ∀ char ∈ text.getLast?, isBlank char = false

theorem isBlank_of_isGap {char : Char} (gap : isGap char = true) : isBlank char = true := by
  simp only [isGap, Bool.or_eq_true, decide_eq_true_eq] at gap
  rcases gap with rfl | rfl <;> decide

theorem not_isGap_of_not_isBlank {char : Char} (clean : isBlank char = false) :
    isGap char = false := by
  by_contra gap
  rw [isBlank_of_isGap (eq_true_of_ne_false gap)] at clean
  cases clean

theorem Trimmed.leads {text : List Char} (trimmed : Trimmed text) :
    ∀ char ∈ text.head?, isGap char = false :=
  fun char head => not_isGap_of_not_isBlank (trimmed.1 char head)

theorem Trimmed.ends {text : List Char} (trimmed : Trimmed text) :
    ∀ char ∈ text.getLast?, isGap char = false :=
  fun char last => not_isGap_of_not_isBlank (trimmed.2 char last)

theorem trimmed_trim (text : List Char) : Trimmed (trim text) := by
  have leads (char : Char) (head : char ∈ (trimStart text).head?) : isBlank char = false := by
    have starts := List.head?_dropWhile_not isBlank text
    rw [show (text.dropWhile isBlank).head? = some char from head] at starts
    simpa using starts
  constructor
  · intro char head
    obtain ⟨trail, whole⟩ := List.rdropWhile_prefix isBlank (trimStart text)
    refine leads char ?_
    rw [← whole]
    exact List.mem_head?_append_of_mem_head? head
  · intro char last
    have ends := List.head?_dropWhile_not isBlank (trimStart text).reverse
    rw [trim, List.getLast?_reverse] at last
    rw [show ((trimStart text).reverse.dropWhile isBlank).head? = some char from last] at ends
    simpa using ends

theorem trimStart_append {lead text : List Char} (leads : ∀ char ∈ text.head?, isBlank char = false)
    (before : ∀ char ∈ lead, isBlank char = true) : trimStart (lead ++ text) = text := by
  rw [trimStart, List.dropWhile_append_of_pos before]
  cases text with
  | nil => rfl
  | cons first rest => simp [show isBlank first = false from leads first rfl]

/-- Blanks at the ends are trimmed, and nothing else. -/
theorem trim_between {lead text trail : List Char} (trimmed : Trimmed text) (nonempty : text ≠ [])
    (before : ∀ char ∈ lead, isBlank char = true) (behind : ∀ char ∈ trail, isBlank char = true) :
    trim (lead ++ text ++ trail) = text := by
  obtain ⟨leads, ends⟩ := trimmed
  have front : ∀ char ∈ (text ++ trail).head?, isBlank char = false := by
    rw [List.head?_append_of_ne_nil _ nonempty]
    exact leads
  have back : ∀ char ∈ text.reverse.head?, isBlank char = false := by
    rw [List.head?_reverse]
    exact ends
  rw [trim, List.append_assoc, trimStart_append front before, List.reverse_append,
    trimStart_append back fun char member => behind char (List.mem_reverse.mp member),
    List.reverse_reverse]

/-- Something without a blank in it. -/
def Unblank (word : List Char) : Prop := word ≠ [] ∧ ∀ char ∈ word, isBlank char = false

instance (word : List Char) : Decidable (Unblank word) :=
  decidable_of_iff (word.isEmpty = false ∧ word.all (fun char => !isBlank char) = true)
    (by simp [Unblank])

theorem Unblank.solid {word : List Char} (unblank : Unblank word) : Solid word :=
  ⟨unblank.1, fun char member => not_isGap_of_not_isBlank (unblank.2 char member)⟩

/-- A text that is laid out in words has no blank at its ends. -/
theorem Follows.trimmed {first rest : List Char} {words : List (List Char)}
    (follows : Follows words rest) (unblank : ∀ word ∈ first :: words, Unblank word) :
    Trimmed (first ++ rest) := by
  constructor
  · intro char head
    obtain ⟨filled, clean⟩ := unblank first List.mem_cons_self
    rw [List.head?_append_of_ne_nil _ filled] at head
    exact clean char (List.mem_of_head? head)
  · intro char last
    induction follows generalizing first with
    | done =>
        rw [List.append_nil] at last
        exact (unblank first List.mem_cons_self).2 char (List.mem_of_getLast? last)
    | @next word gap after words apart gaps following ih =>
        have others := (List.forall_mem_cons.mp unblank).2
        refine ih others ?_
        have filled : word ++ after ≠ [] := by
          simp [(others word List.mem_cons_self).1]
        rwa [List.append_assoc, ← List.append_assoc,
          List.getLast?_append_of_ne_nil _ filled] at last

end CircuitBreaker.Text
