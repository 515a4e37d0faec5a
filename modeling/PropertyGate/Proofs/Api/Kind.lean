import PropertyGate.Http.Message
import PropertyGate.Api.Error

/-!
# Proofs/Api/Kind — an error document shows its kind

The kinds of errors are plain words, and the document of an error starts with its kind, so **the
text of an error document determines the kind** (`kind_eq_of_print_eq`).  An answer `Tells` of an
error of some kind if it is such a document under the status of an error.
-/

namespace PropertyGate

/-! ## Texts in documents -/

namespace Json

/-- A text in its quotation marks. -/
def quoted (text : String) : String := writeText "" text

theorem foldl_escapedChar (written : String) (chars : List Char) :
    chars.foldl (fun written c => written ++ escapedChar c) written =
      written ++ chars.foldl (fun written c => written ++ escapedChar c) "" := by
  induction chars generalizing written with
  | nil => exact String.append_empty.symm
  | cons c rest ih =>
    rw [List.foldl_cons, List.foldl_cons, ih, ih ("" ++ escapedChar c), String.empty_append,
      String.append_assoc]

/-- Writing a text leaves what was written before. -/
theorem writeText_eq (written text : String) : writeText written text = written ++ quoted text := by
  rw [quoted, writeText, writeText, String.foldl_eq_foldl_toList, String.foldl_eq_foldl_toList,
    foldl_escapedChar, foldl_escapedChar ("" ++ "\""), String.empty_append, String.append_assoc,
    String.append_assoc, String.append_assoc]

/-- Characters that stand for themselves in a text. -/
def isUnescaped (c : Char) : Bool := c ≠ '"' && c ≠ '\\' && 0x20 ≤ c.toNat

theorem escapedChar_of_isUnescaped {c : Char} (h : isUnescaped c = true) :
    escapedChar c = c.toString := by
  simp only [isUnescaped, Bool.and_eq_true, decide_eq_true_eq] at h
  obtain ⟨⟨quote, backslash⟩, printable⟩ := h
  rw [escapedChar, if_neg quote, if_neg backslash, if_pos printable]

/-- **A text without special characters stands as it is.** -/
theorem toList_quoted {text : String} (h : text.toList.all isUnescaped = true) :
    (quoted text).toList = '"' :: (text.toList ++ ['"']) := by
  have plain : ∀ chars : List Char, chars.all isUnescaped = true →
      (chars.foldl (fun written c => written ++ escapedChar c) "").toList = chars := by
    intro chars
    induction chars with
    | nil => exact fun _ => rfl
    | cons c rest ih =>
      intro all
      rw [List.all_cons, Bool.and_eq_true] at all
      rw [List.foldl_cons, foldl_escapedChar, String.toList_append, ih all.2,
        escapedChar_of_isUnescaped all.1, String.empty_append, Char.toString_eq_singleton,
        String.toList_singleton, List.singleton_append]
  rw [quoted, writeText, String.foldl_eq_foldl_toList, foldl_escapedChar, String.toList_append,
    String.toList_append, plain _ h]
  rfl

end Json

/-! ## Error documents -/

namespace ErrorBody

open Json (quoted)

/-- The document of an error starts with its kind. -/
theorem exists_print_eq (body : ErrorBody) :
    ∃ rest, body.toJson.print =
      "\x7b" ++ (quoted "kind" ++ (":" ++ (quoted body.kind ++ rest))) := by
  obtain ⟨kind, message, status, _ | offendingId⟩ := body <;>
  · simp only [toJson, Json.optionalMember, List.append_nil, List.cons_append, List.nil_append,
      Json.Value.print, Json.Value.write, Json.Value.writeMembers, Json.writeText_eq,
      String.append_assoc, String.empty_append]
    exact ⟨_, rfl⟩

/-- **The text determines the kind**, where kinds are plain words. -/
theorem kind_eq_of_print_eq {body body' : ErrorBody} (h : body.toJson.print = body'.toJson.print)
    (plain : body.kind.toList.all Json.isUnescaped = true)
    (plain' : body'.kind.toList.all Json.isUnescaped = true) : body.kind = body'.kind := by
  obtain ⟨rest, hprint⟩ := body.exists_print_eq
  obtain ⟨rest', hprint'⟩ := body'.exists_print_eq
  rw [hprint, hprint', String.append_right_inj, String.append_right_inj,
    String.append_right_inj] at h
  have chars := congrArg String.toList h
  rw [String.toList_append, String.toList_append, Json.toList_quoted plain,
    Json.toList_quoted plain', List.cons_append, List.cons_append, List.append_assoc,
    List.append_assoc, List.singleton_append, List.singleton_append] at chars
  -- Up to the closing quotation mark the texts are the kinds.
  have upToQuote : ∀ (kind after : List Char), kind.all Json.isUnescaped = true →
      (kind ++ '"' :: after).takeWhile (· ≠ '"') = kind := by
    intro kind after all
    rw [List.takeWhile_append_of_pos]
    · simp
    · intro c hmem
      have unescaped := List.all_eq_true.1 all c hmem
      simp only [Json.isUnescaped, Bool.and_eq_true] at unescaped
      exact unescaped.1.1
  have kinds := congrArg (List.takeWhile (· ≠ '"')) (List.tail_eq_of_cons_eq chars)
  rw [upToQuote _ _ plain, upToQuote _ _ plain'] at kinds
  exact String.toList_inj.1 kinds

end ErrorBody

/-- The kinds of errors are plain words. -/
theorem ApiError.isUnescaped_kind (error : ApiError) :
    error.kind.toList.all Json.isUnescaped = true := by
  cases error with
  | patch error => cases error <;> simp only [kind, PatchError.kind] <;> decide +kernel
  | _ =>
    simp only [kind]
    decide +kernel

/-- **The answer tells of an error of some kind**: its status is one of an error, and its body is
an error document of that kind. -/
def Http.Response.Tells (response : Http.Response) (kind : String) : Prop :=
  PatchError.isErrorStatus response.status = true ∧
    ∃ body : ErrorBody, body.kind = kind ∧ response.body = body.toJson.print

/-- What tells of an error starts with a brace. -/
theorem Http.Response.Tells.head?_body {response : Http.Response} {kind : String}
    (h : response.Tells kind) : response.body.toList.head? = some '\x7b' := by
  obtain ⟨-, body, -, hbody⟩ := h
  obtain ⟨rest, hprint⟩ := body.exists_print_eq
  rw [hbody, hprint, String.toList_append]
  rfl

end PropertyGate
