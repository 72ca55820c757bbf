import Flyweight.Proofs.Text.Names

/- Identifiers made from names.

   A reserved word becomes an identifier in one of two ways: with the mark of a raw identifier
   in front, or with an underscore behind where the mark is not allowed. Two texts could meet
   through this, `self` and `self_` for example. Two names do not: a name in small letters has
   no `#` in it and does not end with an underscore, so the word can be told from its identifier
   (`escape_inj`). Something attached to a name brings in an underscore, which no reserved word
   has (`compound_notMem_reserved`). -/

namespace Flyweight

namespace Identifier

/-! ## Reserved words -/

theorem mark_notMem_reserved : ∀ word ∈ reserved, '#' ∉ word.toList := by decide +kernel

theorem underscore_notMem_reserved : ∀ word ∈ reserved, '_' ∉ word.toList := by decide +kernel

/-- Whatever the word, its identifier is not reserved. -/
theorem escape_notMem_reserved (word : String) : escape word ∉ reserved := by
  unfold escape
  split
  · intro mem
    have ends : '_' ∈ (word ++ "_").toList := by simp
    exact underscore_notMem_reserved _ mem ends
  · split
    · intro mem
      have marked : '#' ∈ ("r#" ++ word).toList := by simp
      exact mark_notMem_reserved _ mem marked
    · rename_i free
      simpa using free

/-- To be escaped, a word gets no characters but these three. -/
theorem notMem_escape {c : Char} {word : String} (missing : c ∉ word.toList)
    (other : c ∉ "r#_".toList) : c ∉ (escape word).toList := by
  simp only [String.reduceToList, List.mem_cons, List.not_mem_nil, or_false, not_or] at other
  unfold escape
  split
  · simp [missing, other]
  · split
    · simp [missing, other]
    · exact missing

/-! ## Words of identifiers -/

theorem bare_raw (word : String) : bare ("r#" ++ word) = word := by
  simp [bare, String.toList_append]

theorem bare_of_notMem {word : String} (unmarked : '#' ∉ word.toList) : bare word = word := by
  unfold bare
  split
  · rename_i rest raw
    rw [raw] at unmarked
    simp at unmarked
  · rfl

/-- The name that the identifier of a word stands for is the word, unless that would be
reserved as a raw identifier too. -/
theorem bare_escape {word : String} (unmarked : '#' ∉ word.toList) :
    bare (escape word) = if word ∈ neverRaw then word ++ "_" else word := by
  unfold escape
  simp only [List.contains_iff_mem]
  split
  · apply bare_of_notMem
    simp [unmarked]
  · split
    · exact bare_raw word
    · exact bare_of_notMem unmarked

theorem append_underscore_ne {word other : String} (last : other.toList.getLast? ≠ some '_') :
    word ++ "_" ≠ other := by
  rintro rfl
  simp at last

/-- A word without a mark in it and an underscore at its end is told from its identifier. -/
theorem escape_inj {word other : String} (unmarked : '#' ∉ word.toList)
    (unmarked' : '#' ∉ other.toList) (last : word.toList.getLast? ≠ some '_')
    (last' : other.toList.getLast? ≠ some '_') : escape word = escape other ↔ word = other := by
  constructor
  · intro same
    have bares := congrArg bare same
    rw [bare_escape unmarked, bare_escape unmarked'] at bares
    split at bares
    · split at bares
      · have chars := congrArg String.toList bares
        rw [String.toList_append, String.toList_append] at chars
        exact String.toList_inj.mp (List.append_cancel_right chars)
      · exact absurd bares (append_underscore_ne last')
    · split at bares
      · exact absurd bares.symm (append_underscore_ne last)
      · exact bares
  · exact congrArg escape

theorem property_eq_iff (name other : String) :
    property name = property other ↔ Words.snake name = Words.snake other :=
  escape_inj (Words.notMem_snake Letters.foreign_mark name)
    (Words.notMem_snake Letters.foreign_mark other) (Words.getLast?_snake name)
    (Words.getLast?_snake other)

/-! ## Attachments -/

/-- What the names of accessors have before and after the name of the element. -/
def attachments : List (String × String) :=
  [("set_", ""), ("get_", ""), ("put_", ""), ("get_", "_into"), ("put_", "_from"),
    ("", "_length"), ("", "_count")]

theorem compound_notMem_reserved {before after : String}
    (joined : '_' ∈ before.toList ∨ '_' ∈ after.toList) (name : String) :
    compound before name after ∉ reserved := by
  intro mem
  apply underscore_notMem_reserved _ mem
  unfold compound
  simp only [String.toList_append, List.mem_append]
  rcases joined with front | back
  · exact .inl (.inl front)
  · exact .inr back

theorem mark_notMem_compound {before after : String} (front : '#' ∉ before.toList)
    (back : '#' ∉ after.toList) (name : String) :
    '#' ∉ (compound before name after).toList := by
  unfold compound
  simp only [String.toList_append, List.mem_append, not_or]
  exact ⟨⟨front, Words.notMem_snake Letters.foreign_mark name⟩, back⟩

/-- The name of an accessor is never reserved, and two names are the same exactly if they have
the same words in small letters, although three words are escaped with an underscore instead of
the mark. With any of the attachments a name is neither reserved nor a raw identifier. -/
theorem accessors_distinct :
    (∀ name, property name ∉ reserved) ∧
      (∀ name other, property name = property other ↔ Words.snake name = Words.snake other) ∧
      (∀ name, Words.snake name ∈ ["self", "super", "crate"] →
        property name = Words.snake name ++ "_") ∧
      ∀ attachment ∈ attachments, ∀ name,
        compound attachment.1 name attachment.2 ∉ reserved ∧
        ∀ word, compound attachment.1 name attachment.2 ≠ "r#" ++ word := by
  have joined : ∀ attachment ∈ attachments,
      '_' ∈ attachment.1.toList ∨ '_' ∈ attachment.2.toList := by
    decide +kernel
  have unmarked : ∀ attachment ∈ attachments,
      '#' ∉ attachment.1.toList ∧ '#' ∉ attachment.2.toList := by
    decide +kernel
  have listed : ∀ word ∈ ["self", "super", "crate"], neverRaw.contains word = true := by
    decide +kernel
  refine ⟨fun name => escape_notMem_reserved _, property_eq_iff, ?_, ?_⟩
  · intro name mem
    rw [property, escape, if_pos (listed _ mem)]
  · intro attachment mem name
    refine ⟨compound_notMem_reserved (joined attachment mem) name, fun word same => ?_⟩
    obtain ⟨front, back⟩ := unmarked attachment mem
    apply mark_notMem_compound front back name
    rw [same]
    simp

/-- A word of each way to escape, and an attachment to it. -/
theorem accessors_distinct_super :
    Words.snake "Super" ∈ ["self", "super", "crate"] ∧ property "Super" = "super_" ∧
      property "Super" ≠ property "super_type" ∧ property "Type" = "r#type" ∧
      ("get_", "_into") ∈ attachments ∧ compound "get_" "Type" "_into" ∉ reserved ∧
      compound "get_" "Type" "_into" ≠ property "Type" := by
  obtain ⟨-, same, underscored, attached⟩ := accessors_distinct
  have words : Words.snake "Super" = "super" := by decide +kernel
  have raw : property "Type" = "r#type" := by decide +kernel
  have listed : Words.snake "Super" ∈ ["self", "super", "crate"] := by
    rw [words]
    decide
  have inside : ("get_", "_into") ∈ attachments := by decide
  obtain ⟨free, unlike⟩ := attached _ inside "Type"
  refine ⟨listed, ?_, ?_, raw, inside, free, ?_⟩
  · rw [underscored "Super" listed, words]
    rfl
  · intro equal
    have stems := (same "Super" "super_type").mp equal
    exact absurd stems (by decide +kernel)
  · rw [raw]
    exact unlike "type"

end Identifier

end Flyweight
