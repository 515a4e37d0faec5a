import PropertyGate.Proofs.Api.Kind
import PropertyGate.Proofs.Text.Bytes

/-!
# Proofs/Json/Printing — the bytes of a document

Writing a document leaves what was written before, so the text of a document is put together from the
texts of its parts (`write_eq`).  In bytes: an array is a bracket, its first item, and a tail in which
a comma leads every further item (`bytes_array`); an object is the same with keys (`bytes_object`).
-/

namespace PropertyGate.Json

namespace Value

/-! ## Writing behind what is written -/

mutual

theorem write_eq (written : String) : (value : Value) → value.write written = written ++ value.print
  | .null | .bool true | .bool false | .number _ | .text _ | .array [] | .object [] => by
    simp only [print, write, String.empty_append, writeText_eq written, writeText_eq ""]
  | .array (item :: rest) => by
    rw [print, write, write, writeItems_eq _ rest, writeItems_eq (write ("" ++ "[") item) rest,
      write_eq (written ++ "[") item, write_eq ("" ++ "[") item]
    simp only [String.empty_append, String.append_assoc]
  | .object ((key, value) :: rest) => by
    rw [print, write, write, writeMembers_eq _ rest,
      writeMembers_eq (write (writeText ("" ++ "\x7b") key ++ ":") value) rest,
      write_eq (writeText (written ++ "\x7b") key ++ ":") value,
      write_eq (writeText ("" ++ "\x7b") key ++ ":") value, writeText_eq, writeText_eq ("" ++ "\x7b")]
    simp only [String.empty_append, String.append_assoc]

theorem writeItems_eq (written : String) :
    (items : List Value) → writeItems written items = written ++ writeItems "" items
  | [] => by simp only [writeItems, String.empty_append]
  | item :: rest => by
    rw [writeItems, writeItems, writeItems_eq _ rest, writeItems_eq (write ("" ++ ",") item) rest,
      write_eq (written ++ ",") item, write_eq ("" ++ ",") item]
    simp only [String.empty_append, String.append_assoc]

theorem writeMembers_eq (written : String) :
    (members : List (String × Value)) →
      writeMembers written members = written ++ writeMembers "" members
  | [] => by simp only [writeMembers, String.empty_append]
  | (key, value) :: rest => by
    rw [writeMembers, writeMembers, writeMembers_eq _ rest,
      writeMembers_eq (write (writeText ("" ++ ",") key ++ ":") value) rest,
      write_eq (writeText (written ++ ",") key ++ ":") value,
      write_eq (writeText ("" ++ ",") key ++ ":") value, writeText_eq, writeText_eq ("" ++ ",")]
    simp only [String.empty_append, String.append_assoc]

end

/-! ## In bytes -/

/-- The bytes of a document. -/
def bytes (value : Value) : Bytes := Utf8.encode value.print

/-- What follows the first item of an array: the other items, each behind a comma, and the
bracket. -/
def itemsTail : List Value → Bytes
  | [] => [byte ']']
  | item :: rest => byte ',' :: (item.bytes ++ itemsTail rest)

/-- What follows the first member of an object: the other members, each behind a comma, and the
brace. -/
def membersTail : List (String × Value) → Bytes
  | [] => [byte '}']
  | (key, value) :: rest =>
    byte ',' :: (Utf8.encode (quoted key) ++ byte ':' :: (value.bytes ++ membersTail rest))

/-- What follows the bracket that opens an array. -/
def itemsInside : List Value → Bytes
  | [] => [byte ']']
  | item :: rest => item.bytes ++ itemsTail rest

/-- What follows the brace that opens an object. -/
def membersInside : List (String × Value) → Bytes
  | [] => [byte '}']
  | (key, value) :: rest =>
    Utf8.encode (quoted key) ++ byte ':' :: (value.bytes ++ membersTail rest)

theorem encode_writeItems (items : List Value) :
    Utf8.encode (writeItems "" items) = itemsTail items := by
  induction items with
  | nil => rfl
  | cons item rest ih =>
    rw [writeItems, writeItems_eq, write_eq, String.empty_append, Utf8.encode_append,
      Utf8.encode_append, ih, List.append_assoc]
    rfl

theorem encode_writeMembers (members : List (String × Value)) :
    Utf8.encode (writeMembers "" members) = membersTail members := by
  induction members with
  | nil => rfl
  | cons member rest ih =>
    obtain ⟨key, value⟩ := member
    rw [writeMembers, writeMembers_eq, write_eq, writeText_eq, String.empty_append]
    simp only [Utf8.encode_append, ih, List.append_assoc]
    rfl

theorem bytes_array (items : List Value) :
    bytes (.array items) = byte '[' :: itemsInside items := by
  cases items with
  | nil => rfl
  | cons item rest =>
    rw [bytes, print, write, writeItems_eq, write_eq, String.empty_append, Utf8.encode_append,
      Utf8.encode_append, encode_writeItems, List.append_assoc]
    rfl

theorem bytes_object (members : List (String × Value)) :
    bytes (.object members) = byte '{' :: membersInside members := by
  cases members with
  | nil => rfl
  | cons member rest =>
    rw [bytes, print, write, writeMembers_eq, write_eq, writeText_eq, String.empty_append]
    simp only [Utf8.encode_append, encode_writeMembers, List.append_assoc]
    rfl

theorem bytes_text (text : String) : bytes (.text text) = Utf8.encode (quoted text) := rfl

theorem bytes_number (number : Number) : bytes (.number number) = Utf8.encode number.print := by
  rw [bytes, print, write, String.empty_append]

end Value

/-! ## Texts -/

/-- The bytes of characters inside a string. -/
def escapedBytes (chars : List Char) : Bytes := chars.flatMap fun c => Utf8.encode (escapedChar c)

theorem encode_foldl_escapedChar (chars : List Char) :
    Utf8.encode (chars.foldl (fun written c => written ++ escapedChar c) "") =
      escapedBytes chars := by
  induction chars with
  | nil => rfl
  | cons c rest ih =>
    rw [List.foldl_cons, foldl_escapedChar, String.empty_append, Utf8.encode_append, ih]
    rfl

/-- **A text stands between quotation marks, its characters escaped where they must be.** -/
theorem encode_quoted (text : String) :
    Utf8.encode (quoted text) = byte '"' :: (escapedBytes text.toList ++ [byte '"']) := by
  rw [quoted, writeText, String.foldl_eq_foldl_toList, foldl_escapedChar, Utf8.encode_append,
    Utf8.encode_append, encode_foldl_escapedChar]
  rfl

end PropertyGate.Json
