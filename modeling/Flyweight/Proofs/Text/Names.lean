import Flyweight.Identifier

/- Characters that the names of generated source do not have.

   A name is cut into words of letters and digits, and the words are written again in one
   case or the other. The case mappings of Unicode are tables, so what they never map to is
   decided by going through the tables once (`notMem_mapped`). Three facts about names follow:

   1. a name in small letters has nothing in it but letters, digits and underscores: no
      `Foreign` character, such as the slash that would cut the stem of a file
      (`notMem_snake`); nor is a line break in a name in capital letters (`notMem_shouting`,
      `notMem_camel`);
   2. an underscore stands between two words and nowhere else, so a name in small letters does
      not end with one (`getLast?_snake`);
   3. the name of a type does not start with a small m, so it is not the name of the module
      index (`camel_ne_mod`). -/

namespace Flyweight

namespace Letters

/-- No code point of the shift is moved to that one. -/
def Shift.avoids (code : Nat) (s : Shift) : Bool :=
  (code : Int) < s.span.first + s.distance || s.span.last + s.distance < (code : Int)

/-- No code point that the tables map is mapped to that one. -/
def avoids (code : Nat) (shifts : List Shift) (sequences : List (Nat × List Nat)) : Bool :=
  shifts.all (·.avoids code) && sequences.all (fun entry => !entry.2.contains code)

/-- A number that is no code point stands for the character of number zero. -/
theorem ofNat_ne {code : Nat} {x : Char} (some_ : x.toNat ≠ 0) (differs : code ≠ x.toNat) :
    Char.ofNat code ≠ x := by
  rintro rfl
  by_cases valid : code.isValidChar
  · apply differs
    rw [Char.ofNat, dif_pos valid]
    rfl
  · apply some_
    rw [Char.ofNat, dif_neg valid]
    rfl

theorem mem_of_lookup {entries : List (Nat × List Nat)} {code : Nat} {codes : List Nat}
    (h : entries.lookup code = some codes) : (code, codes) ∈ entries := by
  obtain ⟨before, after, shape, _⟩ := List.lookup_eq_some_iff.mp h
  rw [shape]
  exact List.mem_append_right before List.mem_cons_self

/-- A property of all small characters, from that of their numbers. -/
theorem forall_small {P : Char → Prop} (h : ∀ n < 0x80, P (Char.ofNat n)) {c : Char}
    (small : c.toNat < 0x80) : P c := by
  have holds := h c.toNat small
  rwa [Char.ofNat_toNat] at holds

theorem notMem_mapped {shifts : List Shift} {sequences : List (Nat × List Nat)} {x c : Char}
    (some_ : x.toNat ≠ 0) (tables : avoids x.toNat shifts sequences = true) (differs : c ≠ x) :
    x ∉ mapped shifts sequences c := by
  obtain ⟨moved, listed⟩ := Bool.and_eq_true_iff.mp tables
  unfold mapped
  split
  · rename_i codes found
    intro mem
    obtain ⟨code, inside, same⟩ := List.mem_map.mp mem
    have entry := List.all_eq_true.mp listed _ (mem_of_lookup found)
    have other : code ≠ x.toNat := by
      rintro rfl
      simp [inside] at entry
    exact ofNat_ne some_ other same
  · split
    · rename_i s found
      have shift := List.all_eq_true.mp moved s (List.mem_of_find?_eq_some found)
      have range := List.find?_some found
      simp only [Progression.contains, Shift.avoids, Bool.and_eq_true, Bool.or_eq_true,
        decide_eq_true_eq] at range shift
      have other : (c.toNat + s.distance).toNat ≠ x.toNat := by
        omega
      simpa using (ofNat_ne some_ other).symm
    · simpa using differs.symm

/-- The character is no letter, digit or underscore, and no letter has it as its small form. -/
structure Foreign (x : Char) : Prop where
  other : isAlphanumeric x = false
  apart : x ≠ '_'
  some_ : x.toNat ≠ 0
  small : ∀ n < 0x80, Char.ofNat n ≠ x → x ∉ [(Char.ofNat n).toLower]
  tables : avoids x.toNat lowerShifts lowerSequences = true

theorem foreign_slash : Foreign '/' :=
  ⟨by decide, by decide, by decide, by decide +kernel, by decide +kernel⟩

theorem foreign_point : Foreign '.' :=
  ⟨by decide, by decide, by decide, by decide +kernel, by decide +kernel⟩

theorem foreign_ampersand : Foreign '&' :=
  ⟨by decide, by decide, by decide, by decide +kernel, by decide +kernel⟩

theorem foreign_mark : Foreign '#' :=
  ⟨by decide, by decide, by decide, by decide +kernel, by decide +kernel⟩

theorem foreign_feed : Foreign '\n' :=
  ⟨by decide, by decide, by decide, by decide +kernel, by decide +kernel⟩

theorem foreign_return : Foreign '\x0d' :=
  ⟨by decide, by decide, by decide, by decide +kernel, by decide +kernel⟩

/-- No letter has the character as its capital form either. -/
structure ForeignInCapitals (x : Char) : Prop extends Foreign x where
  large : ∀ n < 0x80, Char.ofNat n ≠ x → x ∉ [(Char.ofNat n).toUpper]
  largeTables : avoids x.toNat upperShifts upperSequences = true

theorem capitals_feed : ForeignInCapitals '\n' :=
  ⟨foreign_feed, by decide +kernel, by decide +kernel⟩

theorem capitals_return : ForeignInCapitals '\x0d' :=
  ⟨foreign_return, by decide +kernel, by decide +kernel⟩

theorem Foreign.differs {x c : Char} (foreign : Foreign x) (h : isAlphanumeric c = true) :
    c ≠ x := by
  rintro rfl
  rw [foreign.other] at h
  cases h

/-- A character that the tables never map to is in the small form of no other one. -/
theorem notMem_toLower {x c : Char} (some_ : x.toNat ≠ 0)
    (ascii : ∀ n < 0x80, Char.ofNat n ≠ x → x ∉ [(Char.ofNat n).toLower])
    (tables : avoids x.toNat lowerShifts lowerSequences = true) (differs : c ≠ x) :
    x ∉ toLower c := by
  unfold toLower
  split
  · rename_i small
    exact forall_small (P := fun c => c ≠ x → x ∉ [c.toLower]) ascii small differs
  · exact notMem_mapped some_ tables differs

/-- A letter or digit in its small form is not foreign. -/
theorem Foreign.notMem_toLower {x c : Char} (foreign : Foreign x)
    (h : isAlphanumeric c = true) : x ∉ toLower c :=
  Letters.notMem_toLower foreign.some_ foreign.small foreign.tables (foreign.differs h)

/-- A letter or digit in its capital form is not foreign. -/
theorem ForeignInCapitals.notMem_toUpper {x c : Char} (foreign : ForeignInCapitals x)
    (h : isAlphanumeric c = true) : x ∉ toUpper c := by
  have differs := foreign.differs h
  unfold toUpper
  split
  · rename_i small
    exact forall_small (P := fun c => c ≠ x → x ∉ [c.toUpper]) foreign.large small differs
  · exact notMem_mapped foreign.some_ foreign.largeTables differs

/-- An underscore is foreign to letters and digits, though not to names. -/
theorem underscore_notMem_toLower {c : Char} (h : isAlphanumeric c = true) :
    '_' ∉ toLower c := by
  have differs : c ≠ '_' := by
    rintro rfl
    exact absurd h (by decide)
  exact notMem_toLower (by decide) (by decide +kernel) (by decide +kernel) differs

/-- No character has a small m in its capital form. -/
theorem m_notMem_toUpper (c : Char) : 'm' ∉ toUpper c := by
  unfold toUpper
  split
  · rename_i small
    have each : ∀ n < 0x80, 'm' ∉ [(Char.ofNat n).toUpper] := by
      decide +kernel
    exact forall_small (P := fun c => 'm' ∉ [c.toUpper]) each small
  · rename_i high
    refine notMem_mapped (by decide) (by decide +kernel) ?_
    rintro rfl
    exact high (by decide)

theorem mapped_ne_nil {shifts : List Shift} {sequences : List (Nat × List Nat)}
    (listed : sequences.all (fun entry => !entry.2.isEmpty) = true) (c : Char) :
    mapped shifts sequences c ≠ [] := by
  unfold mapped
  split
  · rename_i codes found
    have entry := List.all_eq_true.mp listed _ (mem_of_lookup found)
    intro empty
    rw [List.map_eq_nil_iff.mp empty] at entry
    cases entry
  · split <;> simp

theorem toUpper_ne_nil (c : Char) : toUpper c ≠ [] := by
  unfold toUpper
  split
  · simp
  · exact mapped_ne_nil (by decide +kernel) c

theorem toLower_ne_nil (c : Char) : toLower c ≠ [] := by
  unfold toLower
  split
  · simp
  · exact mapped_ne_nil (by decide +kernel) c

end Letters

namespace Words

/-! ## Words -/

theorem runs_ne_nil (text : List Char) : runs text ≠ [] := by
  cases text with
  | nil => simp [runs]
  | cons c rest =>
    unfold runs
    split
    · simp
    · split <;> simp

theorem alphanumeric_of_runs {text : List Char} :
    ∀ run ∈ runs text, ∀ c ∈ run, Letters.isAlphanumeric c = true := by
  induction text with
  | nil => simp [runs]
  | cons d rest ih =>
    unfold runs
    split
    · rename_i none_
      exact absurd none_ (runs_ne_nil rest)
    · rename_i run others cut
      rw [cut] at ih
      split
      · rename_i letter
        intro run' mem c inside
        rcases List.mem_cons.mp mem with rfl | other
        · rcases List.mem_cons.mp inside with rfl | behind
          · exact letter
          · exact ih run List.mem_cons_self c behind
        · exact ih run' (List.mem_cons_of_mem run other) c inside
      · intro run' mem c inside
        rcases List.mem_cons.mp mem with rfl | other
        · cases inside
        · exact ih run' other c inside

/-- The characters of the words are those of the text that is cut. -/
theorem mem_of_cut {mode : Case} {word text : List Char} :
    ∀ w ∈ cut mode word text, ∀ c ∈ w, c ∈ word ∨ c ∈ text := by
  induction mode, word, text using cut.induct with
  | case1 mode word empty =>
    simp [cut, empty]
  | case2 mode word nonempty =>
    intro w mem c inside
    rw [cut, if_neg nonempty] at mem
    obtain rfl := List.mem_singleton.mp mem
    exact .inl inside
  | case3 mode word d =>
    intro w mem c inside
    rw [cut] at mem
    obtain rfl := List.mem_singleton.mp mem
    exact List.mem_append.mp inside
  | case4 mode word d next rest here ih =>
    intro w mem c inside
    rw [cut, if_pos here] at mem
    rcases List.mem_cons.mp mem with rfl | behind
    · rcases List.mem_append.mp inside with before | last
      · exact .inl before
      · exact .inr (List.mem_append_left (next :: rest) last)
    · rcases ih w behind c inside with none_ | there
      · cases none_
      · exact .inr (List.mem_cons_of_mem d there)
  | case5 mode word d next rest other here ih =>
    intro w mem c inside
    rw [cut, if_neg other, if_pos here] at mem
    rcases List.mem_cons.mp mem with rfl | behind
    · exact .inl inside
    · rcases ih w behind c inside with first | there
      · exact .inr (List.mem_append_left (next :: rest) first)
      · exact .inr (List.mem_cons_of_mem d there)
  | case6 mode word d next rest other other' ih =>
    intro w mem c inside
    rw [cut, if_neg other, if_neg other'] at mem
    rcases ih w mem c inside with so_far | there
    · rcases List.mem_append.mp so_far with before | last
      · exact .inl before
      · exact .inr (List.mem_append_left (next :: rest) last)
    · exact .inr (List.mem_cons_of_mem d there)

/-- No word is empty: one that ends before its last letter has letters in front of it. -/
theorem ne_nil_of_cut {mode : Case} {word text : List Char}
    (started : mode = .upper → word ≠ []) : ∀ w ∈ cut mode word text, w ≠ [] := by
  induction mode, word, text using cut.induct with
  | case1 mode word empty =>
    simp [cut, empty]
  | case2 mode word nonempty =>
    intro w mem
    rw [cut, if_neg nonempty] at mem
    obtain rfl := List.mem_singleton.mp mem
    rintro rfl
    exact nonempty rfl
  | case3 mode word d =>
    intro w mem
    rw [cut] at mem
    obtain rfl := List.mem_singleton.mp mem
    simp
  | case4 mode word d next rest here ih =>
    intro w mem
    rw [cut, if_pos here] at mem
    rcases List.mem_cons.mp mem with rfl | behind
    · simp
    · exact ih (by simp) w behind
  | case5 mode word d next rest other here ih =>
    intro w mem
    rw [cut, if_neg other, if_pos here] at mem
    rcases List.mem_cons.mp mem with rfl | behind
    · exact started here.1
    · exact ih (by simp) w behind
  | case6 mode word d next rest other other' ih =>
    intro w mem
    rw [cut, if_neg other, if_neg other'] at mem
    exact ih (by simp) w mem

theorem ne_nil_of_ofName {name : String} : ∀ word ∈ ofName name, word ≠ [] := by
  intro word mem
  obtain ⟨run, -, found⟩ := List.mem_flatMap.mp mem
  exact ne_nil_of_cut (by simp) word found

theorem alphanumeric_of_ofName {name : String} :
    ∀ word ∈ ofName name, ∀ c ∈ word, Letters.isAlphanumeric c = true := by
  intro word mem c inside
  obtain ⟨run, listed, found⟩ := List.mem_flatMap.mp mem
  rcases mem_of_cut word found c inside with none_ | there
  · cases none_
  · exact alphanumeric_of_runs run listed c there

/-! ## Small letters -/

theorem notMem_lower {x : Char} (final : 'ς' ≠ x) {word : List Char}
    (h : ∀ c ∈ word, x ∉ Letters.toLower c) : x ∉ lower word := by
  induction word using lower.induct with
  | case1 => simp [lower]
  | case2 => simpa [lower] using final.symm
  | case3 c other =>
    rw [lower, if_neg other]
    exact h c List.mem_cons_self
  | case4 c rest more ih =>
    rw [lower, List.mem_append, not_or]
    · exact ⟨h c List.mem_cons_self, ih fun d inside => h d (List.mem_cons_of_mem c inside)⟩
    · exact more

theorem lower_ne_nil {word : List Char} (h : word ≠ []) : lower word ≠ [] := by
  cases word using lower.fun_cases with
  | case1 => exact absurd rfl h
  | case2 => simp [lower]
  | case3 c other =>
    rw [lower, if_neg other]
    exact Letters.toLower_ne_nil c
  | case4 c rest more =>
    rw [lower]
    · exact List.append_ne_nil_of_left_ne_nil (Letters.toLower_ne_nil c) _
    · exact more

theorem intercalate_cons_cons (between word next : List Char) (others : List (List Char)) :
    List.intercalate between (word :: next :: others) =
      word ++ (between ++ List.intercalate between (next :: others)) := rfl

theorem notMem_intercalate {x : Char} {between : List Char} {words : List (List Char)}
    (apart : x ∉ between) (each : ∀ word ∈ words, x ∉ word) :
    x ∉ List.intercalate between words := by
  induction words with
  | nil => simp [List.intercalate]
  | cons word rest ih =>
    have behind := ih fun w inside => each w (List.mem_cons_of_mem word inside)
    have first := each word List.mem_cons_self
    cases rest with
    | nil => simpa [List.intercalate] using first
    | cons next others =>
      rw [intercalate_cons_cons, List.mem_append, not_or, List.mem_append, not_or]
      exact ⟨first, apart, behind⟩

theorem intercalate_ne_nil {between word : List Char} (h : word ≠ []) (rest : List (List Char)) :
    List.intercalate between (word :: rest) ≠ [] := by
  cases rest with
  | nil => simpa [List.intercalate] using h
  | cons next others =>
    rw [intercalate_cons_cons]
    exact List.append_ne_nil_of_left_ne_nil h _

/-- The last character is that of the last word. -/
theorem getLast?_intercalate {x : Char} {between : List Char} {words : List (List Char)}
    (each : ∀ word ∈ words, word ≠ [] ∧ x ∉ word) :
    (List.intercalate between words).getLast? ≠ some x := by
  induction words with
  | nil => simp [List.intercalate]
  | cons word rest ih =>
    have behind := ih fun w inside => each w (List.mem_cons_of_mem word inside)
    have first := each word List.mem_cons_self
    cases rest with
    | nil =>
      intro last
      apply first.2
      have ends := List.mem_of_getLast? last
      simpa [List.intercalate] using ends
    | cons next others =>
      rw [intercalate_cons_cons, List.getLast?_append, List.getLast?_append]
      cases last : (List.intercalate between (next :: others)).getLast? with
      | some c =>
        rw [last] at behind
        exact behind
      | none =>
        have nonempty := (each next (by simp)).1
        exact absurd (List.getLast?_eq_none_iff.mp last) (intercalate_ne_nil nonempty others)

/-- Whatever the name, it is written with letters, digits and underscores alone. -/
theorem notMem_snake {x : Char} (foreign : Letters.Foreign x) (name : String) :
    x ∉ (snake name).toList := by
  rw [snake, String.toList_ofList]
  apply notMem_intercalate
  · simpa using foreign.apart
  · intro word mem
    obtain ⟨letters, listed, rfl⟩ := List.mem_map.mp mem
    have letter := alphanumeric_of_ofName letters listed
    exact notMem_lower (foreign.differs (by decide)) fun c inside =>
      foreign.notMem_toLower (letter c inside)

/-- Nor is a name in capital letters written with anything else. -/
theorem notMem_shouting {x : Char} (foreign : Letters.ForeignInCapitals x) (name : String) :
    x ∉ (shouting name).toList := by
  rw [shouting, String.toList_ofList]
  apply notMem_intercalate
  · simpa using foreign.apart
  · intro word mem inside
    obtain ⟨letters, listed, rfl⟩ := List.mem_map.mp mem
    have letter := alphanumeric_of_ofName letters listed
    obtain ⟨c, there, capital⟩ := List.mem_flatMap.mp inside
    exact foreign.notMem_toUpper (letter c there) capital

theorem notMem_camel {x : Char} (foreign : Letters.ForeignInCapitals x) (name : String) :
    x ∉ (camel name).toList := by
  rw [camel, String.toList_ofList]
  intro mem
  obtain ⟨letters, listed, inside⟩ := List.mem_flatMap.mp mem
  have letter := alphanumeric_of_ofName letters listed
  cases letters with
  | nil => cases inside
  | cons c rest =>
    rw [capitalized, List.mem_append] at inside
    rcases inside with capital | small
    · exact foreign.notMem_toUpper (letter c List.mem_cons_self) capital
    · have each : ∀ d ∈ rest, x ∉ Letters.toLower d := fun d there =>
        foreign.notMem_toLower (letter d (List.mem_cons_of_mem c there))
      exact notMem_lower (foreign.differs (by decide)) each small

/-- A name in small letters does not end with an underscore. -/
theorem getLast?_snake (name : String) : (snake name).toList.getLast? ≠ some '_' := by
  rw [snake, String.toList_ofList]
  apply getLast?_intercalate
  intro word mem
  obtain ⟨letters, listed, rfl⟩ := List.mem_map.mp mem
  have letter := alphanumeric_of_ofName letters listed
  refine ⟨lower_ne_nil (ne_nil_of_ofName letters listed), ?_⟩
  exact notMem_lower (by decide) fun c inside => Letters.underscore_notMem_toLower (letter c inside)

/-! ## A capital first -/

theorem head?_capitalized {words : List (List Char)} :
    (words.flatMap capitalized).head? ≠ some 'm' := by
  induction words with
  | nil => simp
  | cons word rest ih =>
    cases word with
    | nil => exact ih
    | cons c letters =>
      rw [List.flatMap_cons, capitalized]
      cases first : Letters.toUpper c with
      | nil => exact absurd first (Letters.toUpper_ne_nil c)
      | cons d others =>
        intro start
        obtain rfl : d = 'm' := Option.some.inj start
        apply Letters.m_notMem_toUpper c
        rw [first]
        exact List.mem_cons_self

theorem camel_ne_mod (name : String) : camel name ≠ "mod" := by
  intro same
  have chars := congrArg String.toList same
  rw [camel, String.toList_ofList] at chars
  apply head?_capitalized
  rw [chars]
  rfl

end Words

end Flyweight
