/-
# EventCatalog.Proofs.Search.Texts — what keyword and text terms are made of

A keyword and a text term take the same values, those no item of which begins with a token, and
search for the same pieces; only what the pieces become is different, for the words of a text
are one query.  A parameter for a text field means its joined values in just this way, with one
exception: a single word with a star behind it asks for the words that start with it.
-/
import EventCatalog.Proofs.Query.Joined
import EventCatalog.Proofs.Query.Scalars

set_option autoImplicit false

namespace EventCatalog

open Range (RangeItem)
open Value (MeetsFlaw KeptPieces)

/-- A value without commas that ends in a star, and what stands before the star. -/
def StarredWord (raw stem : String) : Prop :=
  raw = stem ++ "*" ∧ ',' ∉ raw.toList

theorem toList_append_star (stem : String) : (stem ++ "*").toList = stem.toList ++ ['*'] := by
  rw [String.toList_append]
  rfl

theorem textTerm_of_starredWord {field : Field} {raw stem : String}
    (starred : StarredWord raw stem) :
    textTerm field raw = Term.ofLeading field.document stem := by
  obtain ⟨rfl, free⟩ := starred
  have ends : (stem ++ "*").toList.getLast? = some '*' := by
    rw [toList_append_star, List.getLast?_concat]
  have front : (stem ++ "*").toList.dropLast = stem.toList := by
    rw [toList_append_star, List.dropLast_concat]
  rw [textTerm, if_pos ⟨ends, free⟩, front, String.ofList_toList]

theorem textTerm_of_not_starredWord {field : Field} {raw : String}
    (plain : ¬∃ stem, StarredWord raw stem) :
    textTerm field raw = Term.ofText field.document raw := by
  rw [textTerm, if_neg]
  rintro ⟨ends, free⟩
  obtain ⟨front, same⟩ := List.getLast?_eq_some_iff.1 ends
  apply plain
  refine ⟨String.ofList front, ?_, free⟩
  rw [← String.toList_inj, toList_append_star, String.toList_ofList, same]

/-- What a parameter for a text field asks for, from its joined values: the words that start with
a stem where they are a single starred word, the words of one query otherwise. -/
def AsksForText (field : Field) (raw : String)
    (compiled : Except ParameterError (Option Term)) : Prop :=
  (∀ stem, StarredWord raw stem → compiled =
      if stem = "" then .error (.query .emptyValue)
      else .ok (some (.leading field.document stem))) ∧
    ((¬∃ stem, StarredWord raw stem) →
      (∀ term, Term.ofText field.document raw = .ok term → compiled = .ok (some term)) ∧
        ∀ e, Term.ofText field.document raw = .error e → compiled = .error (.query e))

theorem asksForText_compileTerm {name : String} {field : Field}
    (named : Field.ofParam? name = some field) (kind : field.kind = .text)
    (values : List String) :
    AsksForText field (",".intercalate values) (compileTerm name values) := by
  have made : fieldTerm field values = textTerm field (",".intercalate values) := by
    rw [fieldTerm, kind]
  rw [compileTerm_eq named, made]
  constructor
  · intro stem starred
    rw [textTerm_of_starredWord starred, Term.ofLeading, Term.requireField_document]
    by_cases empty : stem = ""
    · rw [if_pos empty, if_pos empty]
      rfl
    · rw [if_neg empty, if_neg empty]
      rfl
  · intro plain
    rw [textTerm_of_not_starredWord plain]
    refine ⟨fun term taken => ?_, fun e refused => ?_⟩
    · rw [taken]
      rfl
    · rw [refused]
      rfl

/-- **What keyword and text terms are made of.**  A value is taken unless it is empty or one of
its items begins with a token, and then the pieces of the value are searched: one by one in a
keyword term, as the words of one query in a text term.  A parameter for a text field asks for
the same, but for a single starred word. -/
theorem scalar_terms_take_pieces {field : String} (named : field ≠ "") (raw : String) :
    Term.TakesPieces .keyword field raw (.keyword field) (Term.ofKeyword field raw) ∧
      Term.TakesPieces .text field raw (.text field) (Term.ofText field raw) ∧
      (∀ term, Term.ofText field raw = .ok term → ∃ texts, KeptPieces raw texts ∧
        term.query = .field "match" (.field field (.str (" ".intercalate texts)))) ∧
      ∀ name searched, Field.ofParam? name = some searched → searched.kind = .text →
        ∀ values, ",".intercalate values = raw →
          AsksForText searched raw (compileTerm name values) := by
  have texts : Term.TakesPieces .text field raw (.text field) (Term.ofText field raw) :=
    Term.takesPieces_of_scalarsFor named (.text field)
  refine ⟨Term.takesPieces_of_scalarsFor named (.keyword field), texts, ?_, ?_⟩
  · intro term compiled
    obtain ⟨words, kept, rfl⟩ := texts.pieces term compiled
    exact ⟨words, kept, rfl⟩
  · rintro name searched found kind values rfl
    exact asksForText_compileTerm found kind values

/-- A comma at the end, and a token that begins no item. -/
theorem scalar_terms_take_pieces_bracketed :
    "title" ≠ "" ∧
      Term.ofText "title" "Catan (1,2),new," =
        .ok (.text "title" ["Catan (1", "2)", "new"]) ∧
      KeptPieces "Catan (1,2),new," ["Catan (1", "2)", "new"] := by
  have named : "title" ≠ "" := by decide
  have read : Value.parse "Catan (1,2),new," =
      .ok (["Catan (1", "2)", "new"].map Item.scalar) := by
    have piece (text rest : String) (free : ',' ∉ text.toList)
        (plain : Range.takeToken (text.toList ++ ',' :: rest.toList) = none) :
        Value.scan (text.toList ++ ',' :: rest.toList) =
          (Value.scan rest.toList).map (.scalar (String.ofList text.toList) :: ·) :=
      Value.scan_scalar free (Range.takeToken_eq_none_iff.1 plain)
    rw [Value.parse_of_holdsToken (by decide)]
    calc Value.scan "Catan (1,2),new,".toList
        = (Value.scan "2),new,".toList).map (.scalar "Catan (1" :: ·) :=
          piece "Catan (1" "2),new," (by decide) (by decide)
      _ = ((Value.scan "new,".toList).map (.scalar "2)" :: ·)).map (.scalar "Catan (1" :: ·) :=
          congrArg (Except.map _) (piece "2)" "new," (by decide) (by decide))
      _ = (((Value.scan "".toList).map (.scalar "new" :: ·)).map (.scalar "2)" :: ·)).map
            (.scalar "Catan (1" :: ·) :=
          congrArg (fun rest => Except.map _ (Except.map _ rest))
            (piece "new" "" (by decide) (by decide))
      _ = _ := by rw [String.toList_empty, Value.scan_nil]; rfl
  have compiled : Term.ofText "title" "Catan (1,2),new," =
      .ok (.text "title" ["Catan (1", "2)", "new"]) := by
    rw [Term.ofText, Term.scalarsFor_of_parse named read, Value.scalars?_map_scalar]
    rfl
  obtain ⟨-, terms, -⟩ := scalar_terms_take_pieces named "Catan (1,2),new,"
  obtain ⟨texts, kept, same⟩ := terms.pieces _ compiled
  obtain rfl := (Term.text.inj same).2
  exact ⟨named, compiled, kept⟩

end EventCatalog
