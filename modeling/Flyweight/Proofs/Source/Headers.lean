import Mathlib.Data.List.Basic
import Flyweight.Proofs.Source.Acceptance
import Flyweight.Proofs.Wire.Header

/- The headers of generated groups.

   Every group of a list that is read has a cursor, at whatever depth the group is
   (`cursor_of_groupIn`), and the cursor has the sizes and the two header encodings that
   the group declares (`Describes`). Of these it is only asked that the two encodings are
   there and integral. So a count is always read back, but a block length is only if its
   type holds it and its bytes are not those of the count, and only a header with both
   numbers inside it is apart from the elements behind it (`header_of_groups`); a group
   that breaks each of the three is read all the same (`header_unchecked`). -/

namespace Flyweight.Source

open Grammar Wire

/-! ## Groups of a list -/

/-- The groups of a list of groups, at any depth: the first one, one in its body, or one
behind it. A group is given by its opening token and the rest of its span. -/
inductive GroupIn : List Token → Token → List Token → Prop where
  | here {first last : Token} {inner tail : List Token} (opens : first.signal = .beginGroup)
    (span : IsSpan first inner last) :
    GroupIn (first :: (inner ++ last :: tail)) first (inner ++ [last])
  | inside {first last t : Token} {inner tail rest : List Token} {g : GroupSpan}
    (span : IsSpan first inner last) (read : GroupSpan.ofTokens first (inner ++ [last]) = .ok g)
    (nested : GroupIn g.body.groups t rest) : GroupIn (first :: (inner ++ last :: tail)) t rest
  | behind {first last t : Token} {inner tail rest : List Token} (span : IsSpan first inner last)
    (later : GroupIn tail t rest) : GroupIn (first :: (inner ++ last :: tail)) t rest

/-- A list starts with one span at most. -/
theorem span_unique {first last last' : Token} {inner inner' tail tail' : List Token}
    (span : IsSpan first inner last) (span' : IsSpan first inner' last')
    (same : inner ++ last :: tail = inner' ++ last' :: tail') :
    inner = inner' ∧ last = last' ∧ tail = tail' := by
  have count : Span.lengthAfter 0 first (inner ++ last :: tail) = .ok (inner.length + 1) :=
    Span.lengthAfter_ok_iff.mpr ⟨inner, last, tail, rfl, span, rfl⟩
  have count' : Span.lengthAfter 0 first (inner' ++ last' :: tail') = .ok (inner'.length + 1) :=
    Span.lengthAfter_ok_iff.mpr ⟨inner', last', tail', rfl, span', rfl⟩
  rw [same, count'] at count
  have length : inner.length = inner'.length := by
    have := Except.ok.inj count
    omega
  obtain ⟨rfl, rest⟩ := List.append_inj same length
  obtain ⟨rfl, rfl⟩ := List.cons.inj rest
  exact ⟨rfl, rfl, rfl⟩

/-- Every group of a list that is read has a cursor. -/
theorem cursor_of_groupIn {tokens rest : List Token} {t : Token} (group : GroupIn tokens t rest)
    {owner : Owner} {index : Nat} {code : GroupCode}
    (h : GroupCode.ofTokensFrom owner index tokens = .ok code) :
    ∃ g typeName members c, GroupSpan.ofTokens t rest = .ok g ∧
      GroupCursor.ofSpan typeName g members = .ok c ∧ c ∈ code.cursors := by
  induction group generalizing owner index code with
  | here _ span =>
    obtain ⟨_, _, _, g, _, _, _, cursor, _, same, _, span', read, _, _, _, made, _, rfl⟩ :=
      ofTokensFrom_cons_ok h
    obtain ⟨rfl, rfl, rfl⟩ := span_unique span span' same
    exact ⟨g, _, _, cursor, read, made, List.mem_cons_self⟩
  | inside span read _ ih =>
    obtain ⟨_, _, _, g, _, _, _, _, _, same, _, span', read', _, inside, _, _, _, rfl⟩ :=
      ofTokensFrom_cons_ok h
    obtain ⟨rfl, rfl, rfl⟩ := span_unique span span' same
    obtain rfl := Except.ok.inj (read.symm.trans read')
    obtain ⟨g', typeName, members, c, found, made, mem⟩ := ih inside
    exact ⟨g', typeName, members, c, found, made,
      List.mem_append_left _ (List.mem_cons_of_mem _ mem)⟩
  | behind span _ ih =>
    obtain ⟨_, _, _, _, _, _, _, _, _, same, _, span', _, _, _, _, _, behind, rfl⟩ :=
      ofTokensFrom_cons_ok h
    obtain ⟨rfl, rfl, rfl⟩ := span_unique span span' same
    obtain ⟨g, typeName, members, c, found, made, mem⟩ := ih behind
    exact ⟨g, typeName, members, c, found, made, List.mem_append_right _ mem⟩

/-! ## What a cursor has from its group -/

/-- The cursor has the size of the group that `first` opens, the size of the composite in
front of its body, and the slots of the first two encodings there with these names. -/
def Describes (first : Token) (rest : List Token) (c : GroupCursor) : Prop :=
  ∃ header members close behind blockLength count b n,
    rest = header :: (members ++ close :: behind) ∧ header.signal = .beginComposite ∧
    IsSpan header members close ∧
    (members.find? fun t => t.signal == .encoding && t.name == "blockLength") =
      some blockLength ∧
    (members.find? fun t => t.signal == .encoding && t.name == "numInGroup") = some count ∧
    blockLength.encoding = some b ∧ Integral b ∧ count.encoding = some n ∧ Integral n ∧
    c.blockLength = first.size.toNat ∧ c.headerSize = header.size.toNat ∧
    c.blockLengthSlot = ⟨⟨"header", blockLength.offset.toNat⟩, b.primitive, b.byteOrder⟩ ∧
    c.countSlot = ⟨⟨"header", count.offset.toNat⟩, n.primitive, n.byteOrder⟩

theorem integralType_ok_iff {t : Token} {usage : String} {e : Encoding} :
    integralType t usage = .ok e ↔ t.sourceEncoding = .ok e ∧ Integral e := by
  rw [integralType, bind_ok_iff]
  constructor
  · intro given
    obtain ⟨e', encoded, h⟩ := given
    by_cases integral : e'.primitive.isIntegral = true
    · rw [if_pos integral] at h
      obtain rfl := Except.ok.inj h
      exact ⟨encoded, integral⟩
    · rw [if_neg integral] at h
      cases h
  · intro given
    obtain ⟨encoded, integral⟩ := given
    exact ⟨e, encoded, if_pos integral⟩

/-- A cursor describes the group that it was made for. -/
theorem describes_of_ofSpan {first : Token} {rest : List Token} {g : GroupSpan}
    {typeName : String} {members : List Member} {c : GroupCursor}
    (read : GroupSpan.ofTokens first rest = .ok g)
    (made : GroupCursor.ofSpan typeName g members = .ok c) : Describes first rest c := by
  obtain ⟨h, split_, found, found', -, whole⟩ := groupSpan_ok_iff.mp read
  obtain ⟨first', close, last, shape, -, signal, span⟩ := headedSpan_ok_iff.mp split_
  obtain ⟨rfl, rfl⟩ := List.cons.inj shape
  rw [GroupCursor.ofSpan] at made
  obtain ⟨b, block, made⟩ := bind_ok_iff.mp made
  obtain ⟨n, number, made⟩ := bind_ok_iff.mp made
  obtain ⟨encoded, integral⟩ := integralType_ok_iff.mp block
  obtain ⟨encoded', integral'⟩ := integralType_ok_iff.mp number
  obtain rfl := Except.ok.inj made
  refine ⟨h.header, h.headerBody, close, h.rest ++ [last], g.blockLength, g.count, b, n, ?_,
    signal, span, member_ok_iff.mp found, member_ok_iff.mp found',
    (encoded_of_member found).mp encoded, integral, (encoded_of_member found').mp encoded',
    integral', ?_, ?_, rfl, rfl⟩
  · simp only [List.cons_append, List.append_assoc]
  · rw [whole]
  · rw [whole]

/-! ## What is written and read -/

/-- Every group that is read, at any depth, has a cursor with the sizes and the header
encodings that the group declares. With a count that its type holds, the header that the
cursor writes is read at the same position: the count as it was given, and the block length
as it is declared if its type holds it and its bytes are apart from those of the count. If
both numbers lie in the header, it is written wherever there is room for it, no byte outside
it is, and the first element starts behind it. -/
theorem header_of_groups {owner : Owner} {tokens : List Token} {code : GroupCode}
    (h : GroupCode.ofTokens owner tokens = .ok code) {first : Token} {rest : List Token}
    (group : GroupIn tokens first rest) :
    ∃ c ∈ code.cursors, Describes first rest c ∧
      ∀ (m : Message) (count : Nat), count ≤ c.countSlot.primitive.greatest →
        (∀ cursor m', (c.encode count).outcome m = (.ok cursor, m') →
          cursor.count = count ∧ cursor.blockLength = c.blockLength ∧
            ∃ blockLength, c.decode.outcome { m' with position := m.position } =
                (.ok { cursor with blockLength }, m') ∧
              (c.blockLengthSlot.Apart c.countSlot →
                c.blockLength ≤ c.blockLengthSlot.primitive.greatest →
                blockLength = c.blockLength)) ∧
        (c.Contained →
          ((∃ cursor m', (c.encode count).outcome m = (.ok cursor, m')) ↔
            m.HasRoom c.headerSize) ∧
          ∀ cursor m', (c.encode count).outcome m = (.ok cursor, m') →
            cursor.element = m.offset + m.position + c.headerSize ∧
              ∀ i, i < m.offset + m.position ∨ m.offset + m.position + c.headerSize ≤ i →
                m'.memory[i]? = m.memory[i]?) := by
  obtain ⟨g, typeName, members, c, read, made, mem⟩ := cursor_of_groupIn group h
  refine ⟨c, mem, describes_of_ofSpan read made, fun m count fits => ⟨?_, ?_⟩⟩
  · intro cursor m' opened
    obtain ⟨number, length, blockLength, back, cast⟩ := GroupCursor.decode_after_encode opened
    refine ⟨number, length, blockLength, back, fun apart held => ?_⟩
    rw [cast apart, Primitive.toSize_ofSize held]
  · intro inside
    exact ⟨GroupCursor.encode_ok_iff inside fits,
      fun cursor m' opened => GroupCursor.encode_frame inside opened⟩

/-- A group of two elements inside another group, written behind three bytes that are
taken. -/
theorem header_of_groups_nested :
    let openHeader : Token := { signal := .beginComposite, name := "groupSize", size := 3 }
    let blockLength : Token :=
      { signal := .encoding, name := "blockLength", encoding := some { primitive := .uint16 } }
    let count : Token :=
      { signal := .encoding, name := "numInGroup", offset := 2,
        encoding := some { primitive := .uint8 } }
    let closeHeader : Token := { signal := .endComposite, name := "groupSize" }
    let header : List Token := [openHeader, blockLength, count, closeHeader]
    let outer : Token := { signal := .beginGroup, name := "outer", size := 6 }
    let inner : Token := { signal := .beginGroup, name := "inner", size := 4 }
    let endInner : Token := { signal := .endGroup, name := "inner" }
    let endOuter : Token := { signal := .endGroup, name := "outer" }
    let tokens : List Token := outer :: (header ++ inner :: (header ++ [endInner]) ++ [endOuter])
    let m : Message := ⟨[7, 7, 7, 7, 7, 7, 7], 1, 2⟩
    ∃ code c cursor m', GroupCode.ofTokens ⟨.message, "M"⟩ tokens = .ok code ∧
      GroupIn tokens inner (header ++ [endInner]) ∧ c ∈ code.cursors ∧ c.blockLength = 4 ∧
      (c.encode 2).outcome m = (.ok cursor, m') ∧ cursor.element = 6 ∧
      m'.memory[6]? = some 7 ∧
      ∃ cursor', c.decode.outcome { m' with position := 2 } = (.ok cursor', m') ∧
        cursor'.count = 2 ∧ cursor'.blockLength = 4 := by
  intro openHeader blockLength count closeHeader header outer inner endInner endOuter tokens m
  let slots (typeName : String) (size : Nat) (members : List Member) : GroupCursor :=
    ⟨typeName, size, 3, ⟨⟨"header", 0⟩, .uint16, .littleEndian⟩,
      ⟨⟨"header", 2⟩, .uint8, .littleEndian⟩, members⟩
  let nested : Member := .group "inner" ⟨.group, "MOuter"⟩ "MOuterInner"
  let code : GroupCode :=
    ⟨[.group "outer" ⟨.message, "M"⟩ "MOuter"],
      [slots "MOuter" 6 [nested], slots "MOuterInner" 4 []]⟩
  have read : GroupCode.ofTokens ⟨.message, "M"⟩ tokens = .ok code := by
    decide +kernel
  -- The inner group is the first one in the body of the outer group.
  let body : Body := ⟨[], inner :: (header ++ [endInner]), []⟩
  have readOuter : GroupSpan.ofTokens outer (header ++ inner :: (header ++ [endInner]) ++
      [endOuter]) = .ok ⟨"outer", 6, openHeader, blockLength, count, body⟩ := by
    decide +kernel
  have headerSpan : IsSpan openHeader [blockLength, count] closeHeader :=
    ⟨rfl, .append (.single rfl rfl) (.single rfl rfl)⟩
  have innerSpan : IsSpan inner header endInner := ⟨rfl, headerSpan.wellNested⟩
  have outerSpan : IsSpan outer (header ++ inner :: (header ++ [endInner])) endOuter :=
    ⟨rfl, headerSpan.wellNested.append innerSpan.wellNested⟩
  have group : GroupIn tokens inner (header ++ [endInner]) :=
    .inside outerSpan readOuter (.here rfl innerSpan)
  obtain ⟨c, mem, describes, transfers⟩ := header_of_groups read group
  -- Of the two cursors, only the one of the inner group has its size.
  obtain rfl : c = slots "MOuterInner" 4 [] := by
    obtain ⟨_, _, _, _, _, _, _, _, -, -, -, -, -, -, -, -, -, size, -⟩ := describes
    rcases List.mem_cons.mp mem with rfl | mem
    · exact absurd size (by decide)
    · exact List.mem_singleton.mp mem
  obtain ⟨back, framed⟩ := transfers m 2 (by decide)
  obtain ⟨room, frame⟩ := framed (by decide)
  obtain ⟨cursor, m', opened⟩ := room.mpr (by decide)
  obtain ⟨number, -, _, decoded, kept⟩ := back cursor m' opened
  obtain ⟨element, untouched⟩ := frame cursor m' opened
  exact ⟨code, _, cursor, m', read, group, mem, rfl, opened, element,
    (untouched 6 (by decide)).trans rfl, _, decoded, number, kept (by decide) (by decide)⟩

/-- Groups are read although the type of the block length does not hold it, so that another
is read back; although the bytes of the two numbers overlap, with the same effect; or
although the header has no size, so that the first element starts where its bytes are. -/
theorem header_unchecked :
    let group (size headerSize : UInt64) (p : Primitive) : List Token :=
      [{ signal := .beginGroup, name := "legs", size },
        { signal := .beginComposite, name := "groupSize", size := headerSize },
        { signal := .encoding, name := "blockLength", encoding := some { primitive := p } },
        { signal := .encoding, name := "numInGroup", offset := 1,
          encoding := some { primitive := .uint8 } },
        { signal := .endComposite, name := "groupSize" }, { signal := .endGroup, name := "legs" }]
    let made (tokens : List Token) : Option GroupCursor :=
      (GroupCode.ofTokens ⟨.message, "M"⟩ tokens).toOption.bind (·.cursors.head?)
    let m : Message := ⟨[0, 0, 0, 0], 0, 0⟩
    (∃ c cursor m' cursor', made (group 300 2 .uint8) = some c ∧
      (c.encode 1).outcome m = (.ok cursor, m') ∧ cursor.blockLength = 300 ∧
      c.decode.outcome { m' with position := 0 } = (.ok cursor', m') ∧ cursor'.blockLength = 44) ∧
    (∃ c cursor m' cursor', made (group 6 2 .uint16) = some c ∧
      (c.encode 7).outcome m = (.ok cursor, m') ∧ cursor.blockLength = 6 ∧
      c.decode.outcome { m' with position := 0 } = (.ok cursor', m') ∧
      cursor'.blockLength = 0x0706) ∧
    ∃ c cursor m', made (group 6 0 .uint8) = some c ∧
      (c.encode 1).outcome m = (.ok cursor, m') ∧ cursor.element = 0 ∧
      m'.memory = [6, 1, 0, 0] := by
  intro group made m
  let cursor (size headerSize : Nat) (p : Primitive) : GroupCursor :=
    ⟨"MLegs", size, headerSize, ⟨⟨"header", 0⟩, p, .littleEndian⟩,
      ⟨⟨"header", 1⟩, .uint8, .littleEndian⟩, []⟩
  -- The messages that the three headers leave, and the cursors on them.
  let cast : Message := ⟨[44, 1, 0, 0], 0, 2⟩
  let mixed : Message := ⟨[6, 7, 0, 0], 0, 2⟩
  let stuck : Message := ⟨[6, 1, 0, 0], 0, 0⟩
  refine ⟨⟨cursor 300 2 .uint8, ⟨cast, 2, 300, 1, 0⟩, cast, ⟨cast, 2, 44, 1, 0⟩, ?_, ?_, rfl, ?_,
      rfl⟩,
    ⟨cursor 6 2 .uint16, ⟨mixed, 2, 6, 7, 0⟩, mixed, ⟨mixed, 2, 0x0706, 7, 0⟩, ?_, ?_, rfl, ?_,
      rfl⟩,
    cursor 6 0 .uint8, ⟨stuck, 0, 6, 1, 0⟩, stuck, ?_, ?_, rfl, rfl⟩
  all_goals decide +kernel

end Flyweight.Source
