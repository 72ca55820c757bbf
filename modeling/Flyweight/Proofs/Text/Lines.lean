import Mathlib.Data.List.Induction
import Flyweight.Source.Layout

/- Texts and their lines.

   A text is cut into lines after each break, and a carriage return belongs to the break after
   it. On lines without either character (`Unbroken`), cutting a text undoes writing the lines
   with a break at the end of each (`ofText_text`), and also writing them with breaks between
   them, if the last one is not empty (`ofText_join`). Between the two, the breaks at the ends of
   a text are trimmed: what is left is the lines without the empty ones at the two ends
   (`trimBreaks_text`). -/

namespace Flyweight

open Source (Block)

namespace Lines

/-- No break is in the line, and no part of one. -/
structure Unbroken (line : String) : Prop where
  feed : '\n' ∉ line.toList
  return_ : '\x0d' ∉ line.toList

@[simp] theorem unbroken_append_iff {line other : String} :
    Unbroken (line ++ other) ↔ Unbroken line ∧ Unbroken other := by
  constructor
  · rintro ⟨feed, return_⟩
    rw [String.toList_append, List.mem_append, not_or] at feed return_
    exact ⟨⟨feed.1, return_.1⟩, feed.2, return_.2⟩
  · rintro ⟨h, h'⟩
    constructor
    · simp [h.feed, h'.feed]
    · simp [h.return_, h'.return_]

theorem unbroken_append {line other : String} (h : Unbroken line) (h' : Unbroken other) :
    Unbroken (line ++ other) :=
  unbroken_append_iff.mpr ⟨h, h'⟩

@[simp] theorem unbroken_indentLine_iff {line : String} {level : Nat} :
    Unbroken (indentLine level line) ↔ Unbroken line := by
  unfold indentLine
  split
  · rename_i empty
    rw [String.isEmpty_iff.mp empty]
  · rw [unbroken_append_iff]
    refine and_iff_right ⟨?_, ?_⟩
    · simp [List.mem_replicate]
    · simp [List.mem_replicate]

theorem unbroken_ofList {chars : List Char}
    (h : (chars.all fun c => c != '\n' && c != '\x0d') = true) :
    Unbroken (String.ofList chars) := by
  constructor
  · intro listed
    rw [String.toList_ofList] at listed
    exact absurd (List.all_eq_true.mp h _ listed) (by decide)
  · intro listed
    rw [String.toList_ofList] at listed
    exact absurd (List.all_eq_true.mp h _ listed) (by decide)

/-! ## Cutting -/

theorem pieces_append {line : List Char} (unbroken : '\n' ∉ line) (rest : List Char) :
    pieces (line ++ '\n' :: rest) = (line, true) :: pieces rest := by
  induction line with
  | nil => rfl
  | cons c cs ih =>
    obtain ⟨other, unbroken⟩ := not_or.mp (List.mem_cons.not.mp unbroken)
    rw [List.cons_append, pieces.eq_3 _ _ (Ne.symm other), ih unbroken]

theorem pieces_single {line : List Char} (unbroken : '\n' ∉ line) (some_ : line ≠ []) :
    pieces line = [(line, false)] := by
  induction line with
  | nil => exact absurd rfl some_
  | cons c cs ih =>
    obtain ⟨other, unbroken⟩ := not_or.mp (List.mem_cons.not.mp unbroken)
    rw [pieces.eq_3 _ _ (Ne.symm other)]
    cases cs with
    | nil => rfl
    | cons d ds => rw [ih unbroken (List.cons_ne_nil d ds)]

/-- The pieces have the characters of the text, without its breaks. -/
theorem mem_of_pieces {text : List Char} :
    ∀ piece ∈ pieces text, ∀ c ∈ piece.1, c ≠ '\n' ∧ c ∈ text := by
  induction text with
  | nil => exact fun piece none_ => absurd none_ List.not_mem_nil
  | cons d rest ih =>
    have behind : ∀ piece ∈ pieces rest, ∀ c ∈ piece.1, c ≠ '\n' ∧ c ∈ d :: rest :=
      fun piece mem c inside => ⟨(ih piece mem c inside).1,
        List.mem_cons_of_mem d (ih piece mem c inside).2⟩
    by_cases break_ : d = '\n'
    · subst break_
      intro piece mem c inside
      rcases List.mem_cons.mp mem with rfl | mem
      · exact absurd inside List.not_mem_nil
      · exact behind piece mem c inside
    · intro piece mem c inside
      rw [pieces.eq_3 _ _ break_] at mem
      split at mem
      · obtain rfl := List.mem_singleton.mp mem
        obtain rfl := List.mem_singleton.mp inside
        exact ⟨break_, List.mem_cons_self⟩
      · rename_i line ended others cut
        rw [cut] at behind
        rcases List.mem_cons.mp mem with rfl | mem
        · rcases List.mem_cons.mp inside with rfl | inside
          · exact ⟨break_, List.mem_cons_self⟩
          · exact behind (line, ended) List.mem_cons_self c inside
        · exact behind piece (List.mem_cons_of_mem _ mem) c inside

theorem body_of_notMem {line : List Char} (h : '\x0d' ∉ line) (ended : Bool) :
    body line ended = line := by
  unfold body
  split
  · rename_i returns
    exact absurd (List.mem_of_getLast? returns.2) h
  · rfl

/-- The lines of a text without carriage returns are unbroken. -/
theorem unbroken_of_ofText {text : String} (h : '\x0d' ∉ text.toList) :
    ∀ line ∈ ofText text, Unbroken line := by
  intro line mem
  obtain ⟨⟨chars, ended⟩, cut, rfl⟩ := List.mem_map.mp mem
  have inside := mem_of_pieces _ cut
  have whole : '\x0d' ∉ chars := fun listed => h (inside _ listed).2
  show Unbroken (String.ofList (body chars ended))
  rw [body_of_notMem whole]
  refine ⟨?_, ?_⟩
  · rw [String.toList_ofList]
    exact fun listed => (inside _ listed).1 rfl
  · rwa [String.toList_ofList]

/-! ## Writing -/

theorem toList_text_cons (line : String) (rest : Block) :
    (Block.text (line :: rest)).toList = line.toList ++ '\n' :: (Block.text rest).toList := by
  simp [Block.text]

theorem toList_text_append (lines rest : Block) :
    (Block.text (lines ++ rest)).toList =
      (Block.text lines).toList ++ (Block.text rest).toList := by
  simp [Block.text]

/-- Lines that are written with their breaks are the first of the text. -/
theorem ofText_text_append {lines : Block} (h : ∀ line ∈ lines, Unbroken line) (rest : String) :
    ofText (Block.text lines ++ rest) = lines ++ ofText rest := by
  induction lines with
  | nil => simp [Block.text]
  | cons line others ih =>
    obtain ⟨here, behind⟩ := List.forall_mem_cons.mp h
    have shape : (Block.text (line :: others) ++ rest).toList =
        line.toList ++ '\n' :: (Block.text others ++ rest).toList := by
      rw [String.toList_append, toList_text_cons, String.toList_append, List.append_assoc,
        List.cons_append]
    have tail : ofText (Block.text others ++ rest) = others ++ ofText rest := ih behind
    unfold ofText at tail ⊢
    rw [shape, pieces_append here.feed, List.map_cons, tail]
    show String.ofList (body line.toList true) :: _ = _
    rw [body_of_notMem here.return_, String.ofList_toList, List.cons_append]

theorem ofText_text {lines : Block} (h : ∀ line ∈ lines, Unbroken line) :
    ofText (Block.text lines) = lines := by
  have read := ofText_text_append h ""
  rwa [String.append_empty, show ofText "" = [] from rfl, List.append_nil] at read

theorem toList_join_concat (lines : List String) (last : String) :
    (join (lines ++ [last])).toList = (Block.text lines).toList ++ last.toList := by
  induction lines with
  | nil => simp [join, Block.text]
  | cons line rest ih =>
    obtain ⟨next, others, shape⟩ : ∃ next others, rest ++ [last] = next :: others :=
      List.exists_cons_of_ne_nil (by simp)
    rw [toList_text_cons, List.append_assoc, List.cons_append, List.cons_append, ← ih, shape]
    simp [join, String.toList_intercalate, List.intercalate]

/-- Lines with a break at the end of each have breaks between them. -/
theorem text_eq_join {lines : List String} (some_ : lines ≠ []) :
    Block.text lines = join lines ++ "\n" := by
  obtain ⟨front, last, rfl⟩ : ∃ front last, lines = front ++ [last] :=
    ⟨_, _, (List.dropLast_concat_getLast some_).symm⟩
  apply String.toList_inj.mp
  rw [toList_text_append, String.toList_append, toList_join_concat, toList_text_cons]
  simp [Block.text]

theorem ofText_join {lines : List String} (h : ∀ line ∈ lines, Unbroken line)
    (last : lines.getLast? ≠ some "") : ofText (join lines) = lines := by
  cases lines using List.reverseRecOn with
  | nil => rfl
  | append_singleton front line =>
    have nonempty : line.toList ≠ [] := by
      intro empty
      apply last
      rw [List.getLast?_concat, String.toList_eq_nil_iff.mp empty]
    have here := h line (by simp)
    have alone : ofText line = [line] := by
      rw [ofText, pieces_single here.feed nonempty]
      show [String.ofList (body line.toList false)] = _
      rw [body_of_notMem here.return_, String.ofList_toList]
    have shape : join (front ++ [line]) = Block.text front ++ line := by
      apply String.toList_inj.mp
      rw [toList_join_concat, String.toList_append]
    rw [shape, ofText_text_append fun l mem => h l (List.mem_append_left _ mem), alone]

/-! ## Trimming -/

theorem mem_of_trimmed {lines : List String} {line : String} (h : line ∈ trimmed lines) :
    line ∈ lines := by
  have inside := (List.dropWhile_suffix _).subset (List.mem_reverse.mp h)
  exact (List.dropWhile_suffix _).subset (List.mem_reverse.mp inside)

/-- Only empty lines are trimmed. -/
theorem mem_trimmed_iff {lines : List String} {line : String} (some_ : line ≠ "") :
    line ∈ trimmed lines ↔ line ∈ lines := by
  have kept (others : List String) : line ∈ others.dropWhile String.isEmpty ↔ line ∈ others := by
    induction others with
    | nil => rfl
    | cons other rest ih =>
      rw [List.dropWhile_cons]
      split
      · rename_i empty
        rw [ih, List.mem_cons, String.isEmpty_iff.mp empty]
        exact (or_iff_right some_).symm
      · rfl
  rw [trimmed, List.mem_reverse, kept, List.mem_reverse, kept]

theorem getLast?_trimmed (lines : List String) : (trimmed lines).getLast? ≠ some "" := by
  intro last
  rw [trimmed, List.getLast?_reverse] at last
  have stops := List.head?_dropWhile_not String.isEmpty (lines.dropWhile String.isEmpty).reverse
  rw [last] at stops
  exact absurd stops (by decide)

/-- The breaks at the start of a text are its empty lines there. -/
theorem dropWhile_text {lines : Block} (h : ∀ line ∈ lines, '\n' ∉ line.toList) :
    (Block.text lines).toList.dropWhile (· == '\n') =
      (Block.text (lines.dropWhile String.isEmpty)).toList := by
  induction lines with
  | nil => rfl
  | cons line rest ih =>
    obtain ⟨here, behind⟩ := List.forall_mem_cons.mp h
    rw [toList_text_cons]
    cases shape : line.toList with
    | nil =>
      have empty : line.isEmpty = true := by
        simp [String.toList_eq_nil_iff.mp shape]
      rw [List.nil_append, List.dropWhile_cons_of_pos (p := (· == '\n')) rfl, ih behind,
        List.dropWhile_cons_of_pos empty]
    | cons c cs =>
      have nonempty : ¬ line.isEmpty = true := by
        intro empty
        rw [String.isEmpty_iff.mp empty] at shape
        cases shape
      have other : ¬ (c == '\n') = true := by
        intro same
        apply here
        rw [shape, eq_of_beq same]
        exact List.mem_cons_self
      rw [List.cons_append, List.dropWhile_cons_of_neg (p := (· == '\n')) other,
        List.dropWhile_cons_of_neg nonempty, toList_text_cons, shape, List.cons_append]

/-- The breaks at the end of a text are the last break and those of its empty lines there. -/
theorem dropWhile_reverse_text {lines : Block} (h : ∀ line ∈ lines, '\n' ∉ line.toList) :
    ((Block.text lines).toList.reverse.dropWhile (· == '\n')).reverse =
      (join (lines.reverse.dropWhile String.isEmpty).reverse).toList := by
  induction lines using List.reverseRecOn with
  | nil => rfl
  | append_singleton front line ih =>
    have here := h line (by simp)
    have before := ih fun l mem => h l (List.mem_append_left _ mem)
    have shape : (Block.text (front ++ [line])).toList.reverse =
        '\n' :: (line.toList.reverse ++ (Block.text front).toList.reverse) := by
      rw [toList_text_append, toList_text_cons]
      simp [Block.text]
    rw [shape, List.dropWhile_cons_of_pos (p := (· == '\n')) rfl, List.reverse_append,
      List.reverse_singleton, List.singleton_append]
    cases last : line.toList.reverse with
    | nil =>
      have empty : line.isEmpty = true := by
        simpa using last
      rw [List.nil_append, before, List.dropWhile_cons_of_pos empty]
    | cons c cs =>
      have nonempty : ¬ line.isEmpty = true := by
        intro empty
        rw [String.isEmpty_iff.mp empty] at last
        cases last
      have other : ¬ (c == '\n') = true := by
        intro same
        apply here
        rw [← List.mem_reverse, last, eq_of_beq same]
        exact List.mem_cons_self
      rw [List.cons_append, List.dropWhile_cons_of_neg (p := (· == '\n')) other,
        List.dropWhile_cons_of_neg nonempty, ← List.cons_append, ← last, List.reverse_append,
        List.reverse_reverse, List.reverse_reverse, List.reverse_cons, List.reverse_reverse,
        toList_join_concat]

/-- A text without the breaks at its ends has the lines without the empty ones there. -/
theorem trimBreaks_text {lines : Block} (h : ∀ line ∈ lines, '\n' ∉ line.toList) :
    trimBreaks (Block.text lines) = join (trimmed lines) := by
  have inside : ∀ line ∈ lines.dropWhile String.isEmpty, '\n' ∉ line.toList :=
    fun line mem => h line ((List.dropWhile_suffix _).subset mem)
  apply String.toList_inj.mp
  unfold trimBreaks
  rw [String.toList_ofList, dropWhile_text h, dropWhile_reverse_text inside, trimmed]

end Lines

end Flyweight
