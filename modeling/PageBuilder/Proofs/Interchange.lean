import PageBuilder.Proofs.PageForm
import PageBuilder.Page.Interchange

/-!
# Exported pages are imported again

A page exported for interchange is imported over any current document without loss: the elements,
the theme and the columns are those of the exported page, the brand is that of the current document.
-/

namespace PageBuilder

open Json Numeric

theorem Document.whole_interchange {d : Document} (durable : d.Durable) :
    Whole 4 d.interchange := by
  refine whole_object fun m hm => ?_
  fin_cases hm
  · exact durable.whole_elements 0
  · exact whole_string _ _
  · exact whole_ofNat _ (count_le _)

theorem Payload.orderly : Payload.shape.Orderly := by
  refine Sets.orderly (.cons (stable_asList Element.orderly.stable_read) <|
    .cons (stable_asOption stable_choice) <| .cons (stable_asOption stable_columns) <|
    .cons (stable_asOption Brand.orderly.stable_read) .nil) ?_
  simp [Setter.Apart]

theorem Payload.shape_read_interchange {d : Document} (durable : d.Durable) :
    Payload.shape.read d.interchange = .ok ⟨d.elements, some d.theme, some d.columns, none⟩ := by
  exact Payload.shape.read_object (by decide)
    (.required durable.read_elements <| .required (asOption_choice d.theme) <|
      .required (asOption_columns d.columns) .done) rfl

theorem Payload.parse_exportText {d : Document} (durable : d.Durable) :
    Payload.parse d.exportText = .ok ⟨d.elements, some d.theme, some d.columns, none⟩ := by
  have text : ofBoundedText? d.exportText = some d.interchange :=
    ofBoundedText?_pretty (Document.whole_interchange durable) (by decide)
  have elements : hasElements d.interchange = true := rfl
  -- The text is held as a whole before it is read, and that sorts the members of objects.
  have read := Payload.orderly.stable_read _ _ (Payload.shape_read_interchange durable)
  simp [Payload.parse, text, Payload.read, elements, read]

/-- **Import undoes export.** A page exported for interchange and imported over any current document
gives the exported page with the brand of the current document, and that page is exported as the
same text. -/
theorem Document.importText_exportText (s c : Document) (durable : s.Durable) :
    c.importText s.exportText = .ok { s with brand := c.brand } ∧
      ({ s with brand := c.brand } : Document).exportText = s.exportText := by
  refine ⟨?_, rfl⟩
  rw [Document.importText, Payload.parse_exportText durable]
  rfl

theorem Document.importText_exportText_quoted :
    let named : Element := ⟨"el-1", .button, "caf\u00e9 \"\\\n\t\u0001", .editorDefaults⟩
    let plain : Element := ⟨"el-1", .text, "", { columns := some .three }⟩
    let s : Document := ⟨[named, plain], .light, .two, {}⟩
    let c : Document := { brand := { primary := "#000000", glass := false } }
    s.Durable ∧ c.importText s.exportText = .ok { s with brand := c.brand } ∧
      ({ s with brand := c.brand } : Document).exportText = s.exportText := by
  intro named plain s c
  have durable : s.Durable := by decide +kernel
  exact ⟨durable, Document.importText_exportText s c durable⟩

end PageBuilder
