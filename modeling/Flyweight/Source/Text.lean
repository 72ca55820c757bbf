import Flyweight.Source.Declaration
import Flyweight.Source.Layout

/- The text of declarations, in Rust.

   A member contributes methods; a nested flyweight also contributes a field of
   the struct and its initial value. Every item of an implementation has an empty
   line before it, except the first. -/

namespace Flyweight.Source

/-- A public method. -/
def method (signature : String) (body : Block) : Block := braces s!"pub fn {signature}" body

/-- A check that refuses with an error. -/
def check (condition error : String) : Block :=
  braces s!"if {condition}" [s!"return Err(CodecError::{error});"]

/-- An error with its details. -/
def detailed (error details : String) : String := s!"{error} \x7b {details} \x7d"

/-! ## Members -/

/-- The accessor of a value that the schema fixes. -/
def fixedValueBlocks (name : String) (p : Primitive) (literal : String) : List Block :=
  let getter := Identifier.property name
  let rust := p.rustType
  [method s!"{getter}(&self) -> {rust}" [literal]]

/-- The accessors of a single value. -/
def scalarBlocks (name : String) (slot : Slot) : List Block :=
  let getter := Identifier.property name
  let setter := Identifier.compound "set_" name ""
  let rust := slot.primitive.rustType
  let place := slot.place.expression
  let order := slot.order.expression
  [method s!"{getter}(&self) -> CodecResult<{rust}>"
    [s!"codec::get::<{rust}>(self.buffer, {place}, {order})"],
  method s!"{setter}(&mut self, value: {rust}) -> CodecResult<&mut Self>"
    [s!"codec::put::<{rust}>(self.buffer, {place}, value, {order})?;", "Ok(self)"]]

/-- The checks of a transfer of several array elements, and the part of the
caller's slice `slice` that takes part in it. -/
def transferBlock (slice access : String) (length : Nat) : Block :=
  check s!"offset >= {length}" (detailed "OffsetOutOfRange" s!"offset, length: {length}") ++
  [""] ++
  check s!"length > {length}" (detailed "LengthOutOfRange" s!"length, max: {length}") ++
  let missing := detailed "LengthOutOfRange" "length, max: available"
  ["",
    s!"let available = {slice}.len().saturating_sub(offset);",
    s!"let {slice} = {slice}",
    s!"    .{access}(offset..offset + length)",
    s!"    .ok_or(CodecError::{missing})?;"]

/-- The accessors of an array: its length, its elements one by one, and several
of them at once. -/
def arrayBlocks (name : String) (slot : Slot) (length : Nat) : List Block :=
  let lengthConstant := Identifier.constant name ++ "_LENGTH"
  let lengthMethod := Identifier.compound "" name "_length"
  let getter := Identifier.property name
  let setter := Identifier.compound "set_" name ""
  let getInto := Identifier.compound "get_" name "_into"
  let putFrom := Identifier.compound "put_" name "_from"
  let rust := slot.primitive.rustType
  let width := slot.primitive.size
  let place := slot.place.expression
  let order := slot.order.expression
  let inRange :=
    check s!"index >= {length}" (detailed "IndexOutOfRange" s!"index, length: {length}") ++ [""]
  [[s!"pub const {lengthConstant}: usize = {length};"],
  method s!"{lengthMethod}() -> usize" [s!"Self::{lengthConstant}"],
  method s!"{getter}(&self, index: usize) -> CodecResult<{rust}>"
    (inRange ++ [s!"codec::get::<{rust}>(self.buffer, {place} + index * {width}, {order})"]),
  method s!"{setter}(&mut self, index: usize, value: {rust}) -> CodecResult<&mut Self>"
    (inRange ++
      [s!"codec::put::<{rust}>(self.buffer, {place} + index * {width}, value, {order})?;",
        "Ok(self)"]),
  method
    s!"{getInto}(&self, dst: &mut [{rust}], offset: usize, length: usize) -> CodecResult<()>"
    (transferBlock "dst" "get_mut" length ++
      [s!"codec::get_array::<{rust}>(self.buffer, {place}, dst, {order})"]),
  method
    s!"{putFrom}(&mut self, src: &[{rust}], offset: usize, length: usize) -> CodecResult<&mut Self>"
    (transferBlock "src" "get" length ++
      [s!"codec::put_array::<{rust}>(self.buffer, {place}, src, {order})?;", "Ok(self)"])]

/-- The accessors of a value of an enum type. -/
def enumerationBlocks (name : String) (slot : Slot) (enumName : String) : List Block :=
  let getter := Identifier.property name
  let setter := Identifier.compound "set_" name ""
  let enumType := Identifier.typeName enumName
  let rust := slot.primitive.rustType
  let place := slot.place.expression
  let order := slot.order.expression
  [method s!"{getter}(&self) -> CodecResult<{enumType}>"
    [s!"{enumType}::get(codec::get::<{rust}>(self.buffer, {place}, {order})?)"],
  method s!"{setter}(&mut self, value: {enumType}) -> CodecResult<&mut Self>"
    [s!"codec::put::<{rust}>(self.buffer, {place}, value.value(), {order})?;", "Ok(self)"]]

/-- The accessor of a nested flyweight, which is bound anew by every access. -/
def nestedBlocks (name : String) (at_ : Place) (typeName : String) : List Block :=
  let field := Identifier.property name
  let place := at_.expression
  [method s!"{field}(&mut self) -> &mut {typeName}<'a>"
    [s!"self.{field}.reset(self.buffer, {place});", s!"&mut self.{field}"]]

/-- The accessors of a set's word as a whole. -/
def wordBlocks (p : Primitive) (order : ByteOrder) : List Block :=
  let rust := p.rustType
  let order := order.expression
  [method s!"raw(&self) -> CodecResult<{rust}>"
    [s!"codec::get::<{rust}>(self.buffer, self.offset, {order})"],
  method "clear(&mut self) -> CodecResult<&mut Self>"
    [s!"codec::put::<{rust}>(self.buffer, self.offset, 0, {order})?;", "Ok(self)"]]

/-- The accessors of a choice. -/
def choiceBlocks (name : String) (bit : Nat) (p : Primitive) (order : ByteOrder) : List Block :=
  let getter := Identifier.property name
  let setter := Identifier.compound "set_" name ""
  let rust := p.rustType
  let order := order.expression
  [method s!"{getter}(&self) -> CodecResult<bool>"
    [s!"codec::get_choice::<{rust}>(self.buffer, self.offset, {bit}, {order})"],
  method s!"{setter}(&mut self, value: bool) -> CodecResult<&mut Self>"
    [s!"codec::put_choice::<{rust}>(self.buffer, self.offset, {bit}, value, {order})?;",
      "Ok(self)"]]

/-- The accessors that open a group, for reading and for writing. -/
def groupBlocks (name : String) (owner : Owner) (typeName : String) : List Block :=
  let decode := Identifier.property name
  let encode := Identifier.compound "" name "_count"
  let base := owner.base
  let position := owner.position
  [method s!"{decode}(&mut self) -> CodecResult<{typeName}<'_, 'a>>"
    [s!"{typeName}::wrap_for_decode(self.buffer, {base}, {position})"],
  method s!"{encode}(&mut self, count: usize) -> CodecResult<{typeName}<'_, 'a>>"
    [s!"{typeName}::wrap_for_encode(self.buffer, {base}, {position}, count)"]]

/-- A conversion to the number type of the wire, refused if the number is too
large. -/
def narrowed (target rust value : String) : Block :=
  braces
    s!"let {target} = {rust}::try_from({value}).map_err(|_| CodecError::LengthOutOfRange"
    [s!"length: {value},", s!"max: {rust}::MAX as usize,"] ")?;"

/-- The accessors of variable-length data. -/
def varDataBlocks (name : String) (owner : Owner) (lengthOffset : Nat) (p : Primitive)
    (order : ByteOrder) (dataOffset : Nat) : List Block :=
  let lengthMethod := Identifier.compound "" name "_length"
  let getter := Identifier.compound "get_" name ""
  let setter := Identifier.compound "put_" name ""
  let base := owner.base
  let rust := p.rustType
  let order := order.expression
  let lengthPlace := (Place.mk s!"{base} + self.position()" lengthOffset).expression
  let headerPlace := (Place.mk s!"{base} + header" lengthOffset).expression
  [method s!"{lengthMethod}(&self) -> CodecResult<usize>"
    [s!"Ok(codec::get::<{rust}>(self.buffer, {lengthPlace}, {order})? as usize)"],
  "/// Copies at most `dst.len()` bytes and moves past the whole value." ::
    method s!"{getter}(&mut self, dst: &mut [u8]) -> CodecResult<usize>"
      [s!"let length = self.{lengthMethod}()?;",
        s!"let start = self.position() + {dataOffset};",
        "self.set_position(start + length)?;",
        "",
        "let copied = dst.len().min(length);",
        s!"self.buffer.get_bytes({base} + start, &mut dst[..copied])?;",
        "Ok(copied)"],
  method s!"{setter}(&mut self, src: &[u8]) -> CodecResult<&mut Self>"
    (narrowed "length" rust "src.len()" ++
      ["let header = self.position();",
        s!"let start = header + {dataOffset};",
        "self.set_position(start + src.len())?;",
        "",
        s!"codec::put::<{rust}>(self.buffer, {headerPlace}, length, {order})?;",
        s!"self.buffer.put_bytes({base} + start, src)?;",
        "Ok(self)"])]

namespace Member

/-- The items of the flyweight's implementation. -/
def blocks : Member → List Block
  | fixedValue name primitive literal => fixedValueBlocks name primitive literal
  | scalar name slot => scalarBlocks name slot
  | array name slot length => arrayBlocks name slot length
  | enumeration name slot enumName => enumerationBlocks name slot enumName
  | nested name at_ typeName => nestedBlocks name at_ typeName
  | word primitive order => wordBlocks primitive order
  | choice name bit primitive order => choiceBlocks name bit primitive order
  | group name owner typeName => groupBlocks name owner typeName
  | varData name owner lengthOffset primitive order dataOffset =>
    varDataBlocks name owner lengthOffset primitive order dataOffset

/-- The fields of the flyweight's struct. -/
def fieldLines : Member → Block
  | nested name _ typeName =>
    let field := Identifier.property name
    [s!"{field}: {typeName}<'a>,"]
  | _ => []

/-- The initial values of these fields. -/
def initialLines : Member → Block
  | nested name _ typeName =>
    let field := Identifier.property name
    [s!"{field}: {typeName}::default(),"]
  | _ => []

end Member

/-- The fields of a struct for the members. -/
def fieldsOf (members : List Member) : Block := members.flatMap Member.fieldLines

/-- The initial values of these fields. -/
def initialsOf (members : List Member) : Block := members.flatMap Member.initialLines

/-- The methods of the members, with an empty line before each. -/
def methodsOf (members : List Member) : Block := members.flatMap fun m => spaced m.blocks

/-! ## Declarations -/

/-- The accessors of a flyweight's binding. -/
def bindingBlocks : List Block :=
  [method "buffer(&self) -> DirectBuffer<'a>" ["self.buffer"],
    method "offset(&self) -> usize" ["self.offset"]]

/-- A set, a composite or the message header. -/
def FixedFlyweight.block (f : FixedFlyweight) : Block :=
  let name := f.typeName
  let length := f.encodedLength
  "#[derive(Debug, Default, Clone, Copy)]" ::
  braces s!"pub struct {name}<'a>"
    (["buffer: DirectBuffer<'a>,", "offset: usize,"] ++ fieldsOf f.members) ++
  [""] ++
  braces s!"impl<'a> {name}<'a>"
    ([s!"pub const ENCODED_LENGTH: usize = {length};"] ++
      spaced
        (method "reset(&mut self, buffer: DirectBuffer<'a>, offset: usize) -> &mut Self"
            ["self.buffer = buffer;", "self.offset = offset;", "self"] ::
          bindingBlocks) ++
      methodsOf f.members)

/-- A message, without its cursors. -/
def MessageFlyweight.ownBlock (m : MessageFlyweight) : Block :=
  let name := m.typeName
  let length := m.blockLength
  let template := m.templateId
  "#[derive(Debug, Default, Clone)]" ::
  braces s!"pub struct {name}<'a>"
    (["buffer: DirectBuffer<'a>,", "offset: usize,", "position: usize,"] ++ fieldsOf m.members) ++
  [""] ++
  braces s!"impl<'a> {name}<'a>"
    ([s!"pub const BLOCK_LENGTH: usize = {length};",
      s!"pub const TEMPLATE_ID: i32 = {template};"] ++
      spaced
        (("/// Binds the flyweight at `offset` and moves the position past the root" ::
            "/// block. A buffer too small for the root block leaves the current binding." ::
            method
              "reset(&mut self, buffer: DirectBuffer<'a>, offset: usize) -> CodecResult<&mut Self>"
              ["codec::check_position(Self::BLOCK_LENGTH, offset, buffer.capacity())?;",
                "self.buffer = buffer;",
                "self.offset = offset;",
                "self.position = Self::BLOCK_LENGTH;",
                "Ok(self)"]) ::
          bindingBlocks ++
        [method "position(&self) -> usize" ["self.position"],
          method "set_position(&mut self, position: usize) -> CodecResult<()>"
            ["codec::check_position(position, self.offset, self.buffer.capacity())?;",
              "self.position = position;",
              "Ok(())"],
          "/// Bytes encoded so far, relative to the message offset." ::
            method "size(&self) -> usize" ["self.position"]]) ++
      methodsOf m.members)

/-- The expression that reads a number of a group's header. -/
def headerGet (slot : Slot) : String :=
  let rust := slot.primitive.rustType
  let place := slot.place.expression
  let order := slot.order.expression
  s!"codec::get::<{rust}>(buffer, {place}, {order})? as usize"

/-- The statement that writes a number of a group's header. -/
def headerPut (slot : Slot) (value : String) : String :=
  let rust := slot.primitive.rustType
  let place := slot.place.expression
  let order := slot.order.expression
  s!"codec::put::<{rust}>(buffer, {place}, {value}, {order})?;"

/-- A function whose parameters stand on lines of their own. -/
def constructor (name : String) (parameters : Block) (body : Block) : Block :=
  s!"fn {name}(" :: parameters.indented 1 ++ braces ") -> CodecResult<Self>" body

/-- The functions that open a cursor. -/
def openingBlocks (c : GroupCursor) : List Block :=
  let blockType := c.blockLengthSlot.primitive.rustType
  let countType := c.countSlot.primitive.rustType
  let blockLength := headerGet c.blockLengthSlot
  let count := headerGet c.countSlot
  let shared := ["buffer: DirectBuffer<'a>,", "base_offset: usize,", "position: &'m mut usize,"]
  [braces
    ("fn wrap_for_decode(buffer: DirectBuffer<'a>, base_offset: usize, " ++
      "position: &'m mut usize) -> CodecResult<Self>")
    ["let header = base_offset + *position;",
      s!"let block_length = {blockLength};",
      s!"let count = {count};",
      "Self::wrap(buffer, base_offset, position, block_length, count)"],
  constructor "wrap_for_encode" (shared ++ ["count: usize,"])
    (narrowed "num_in_group" countType "count" ++
      ["codec::check_position(*position + Self::HEADER_SIZE, base_offset, buffer.capacity())?;",
        "",
        "let header = base_offset + *position;",
        headerPut c.blockLengthSlot s!"Self::BLOCK_LENGTH as {blockType}",
        headerPut c.countSlot "num_in_group",
        "Self::wrap(buffer, base_offset, position, Self::BLOCK_LENGTH, count)"]),
  constructor "wrap" (shared ++ ["block_length: usize,", "count: usize,"])
    (["let next = *position + Self::HEADER_SIZE;",
      "codec::check_position(next, base_offset, buffer.capacity())?;",
      "*position = next;",
      ""] ++
      braces "Ok(Self"
        (["buffer,", "base_offset,", "position,", "offset: base_offset + next,", "block_length,",
          "count,", "index: 0,"] ++ initialsOf c.members) ")")]

/-- The methods that every cursor has. -/
def cursorBlocks : List Block :=
  [method "count(&self) -> usize" ["self.count"],
    method "block_length(&self) -> usize" ["self.block_length"],
    method "index(&self) -> usize" ["self.index"],
    method "has_next(&self) -> bool" ["self.index < self.count"],
    method "position(&self) -> usize" ["*self.position"],
    method "set_position(&mut self, position: usize) -> CodecResult<()>"
      ["codec::check_position(position, self.base_offset, self.buffer.capacity())?;",
        "*self.position = position;",
        "Ok(())"],
    "/// Moves to the next element: its block starts at the current position." ::
      method "next(&mut self) -> CodecResult<&mut Self>"
        (braces "if self.index >= self.count"
            (braces "return Err(CodecError::IndexOutOfRange"
              ["index: self.index,", "length: self.count,"] ");") ++
          ["",
            "let element = *self.position;",
            "self.set_position(element + self.block_length)?;",
            "self.offset = self.base_offset + element;",
            "self.index += 1;",
            "Ok(self)"])]

/-- The cursor of a group, with an empty line before it. -/
def GroupCursor.block (c : GroupCursor) : Block :=
  let name := c.typeName
  let length := c.blockLength
  let headerSize := c.headerSize
  ["", "#[derive(Debug)]"] ++
  braces s!"pub struct {name}<'m, 'a>"
    (["buffer: DirectBuffer<'a>,", "base_offset: usize,", "position: &'m mut usize,",
      "offset: usize,", "block_length: usize,", "count: usize,", "index: usize,"] ++
      fieldsOf c.members) ++
  [""] ++
  braces s!"impl<'m, 'a> {name}<'m, 'a>"
    ([s!"pub const BLOCK_LENGTH: usize = {length};",
      s!"pub const HEADER_SIZE: usize = {headerSize};"] ++
      spaced (openingBlocks c ++ cursorBlocks) ++ methodsOf c.members)

/-- A message, with the cursors of its groups after it. -/
def MessageFlyweight.block (m : MessageFlyweight) : Block :=
  m.ownBlock ++ m.cursors.flatMap GroupCursor.block

/-- The line of an arm. -/
def Arm.line (a : Arm) : String := a.pattern ++ " => " ++ a.answer ++ ","

/-- The line of an arm whose answer is a success. -/
def Arm.okLine (a : Arm) : String := a.pattern ++ " => Ok(" ++ a.answer ++ "),"

/-- An enum, with its conversions from and to the wire's number type. -/
def Enumeration.block (e : Enumeration) : Block :=
  let name := e.typeName
  let rust := e.primitive.rustType
  let variants := e.variants.map fun v => v.typeName ++ ","
  let values := e.variants.map fun v => v.valueArm.line
  let readings := e.variants.map fun v => v.codeArm.okLine
  "#[derive(Debug, Clone, Copy, PartialEq, Eq, Hash)]" ::
  braces s!"pub enum {name}" variants ++
  [""] ++
  braces s!"impl {name}"
    (braces s!"pub const fn value(self) -> {rust}" (braces "match self" values) ++
      [""] ++
      method s!"get(value: {rust}) -> CodecResult<Self>"
        (braces "match value"
          (readings ++
            braces "_ => Err(CodecError::UnknownEnumValue"
              [s!"enum_name: \"{name}\",", "value: i128::from(value),"] "),"))) ++
  [""] ++
  braces s!"impl TryFrom<{rust}> for {name}"
    (["type Error = CodecError;", ""] ++
      braces s!"fn try_from(value: {rust}) -> CodecResult<Self>" ["Self::get(value)"]) ++
  [""] ++
  braces s!"impl From<{name}> for {rust}"
    (braces s!"fn from(value: {name}) -> Self" ["value.value()"])

/-- The lines of a declaration. -/
def Declaration.block : Declaration → Block
  | enumeration e => e.block
  | fixed f => f.block
  | message m => m.block

end Flyweight.Source
