import AtlasPulse.Correlation
import AtlasPulse.Lib.Text

/-!
# Event documents

`retrieval/document.py`: the text that an event is embedded and reviewed as.
The formats of numbers and times, and the tables of Unicode, are parameters.
-/

namespace AtlasPulse

open PyJson PyText

/-- An event model with the formats and the Unicode tables that texts depend on. -/
structure TextModel (E T F : Type) extends SignalModel E T F where
  isoformat : T → String
  /-- `format(value, "g")` -/
  formatGeneral : Json → String
  /-- `f"{value:.6f}"` -/
  formatFixed : F → String
  casefold : String → String
  /-- `\w` in a pattern -/
  isWord : Char → Bool

def maxDocumentCharacters : Nat := 8000

def documentTextFields : List (String × String) :=
  [("title", "Title"), ("place", "Place"), ("alert_type", "Alert type"), ("headline", "Headline"),
    ("description", "Description"), ("instruction", "Instruction"), ("severity", "Severity"),
    ("certainty", "Certainty"), ("urgency", "Urgency"), ("response", "Response"), ("category", "Category"),
    ("priority", "Priority"), ("magnitude", "Magnitude"), ("magnitude_type", "Magnitude type"),
    ("depth_km", "Depth km"), ("tsunami", "Tsunami flag"), ("satellite", "Satellite"),
    ("instrument", "Instrument"), ("product", "Product"), ("confidence", "Confidence"),
    ("fire_radiative_power_mw", "Fire radiative power MW"), ("day_night", "Observation period"),
    ("quad_class_label", "GDELT class"), ("cameo_event_code", "CAMEO event code"), ("actor1", "Actor one"),
    ("actor2", "Actor two"), ("goldstein_scale", "Goldstein scale"), ("mentions", "Media mentions"),
    ("sources", "Media sources"), ("verification_status", "Verification status"),
    ("sender_name", "Issuing authority")]

/-- `_SPACE.sub(" ", value)`. -/
def collapseSpace (value : String) : String := String.ofList (subRuns isSpace false value.toList)

/-- `rendered or None`. -/
def orNone (rendered : String) : Option String := if rendered = "" then none else some rendered

section
variable {E T F : Type} (m : TextModel E T F)

mutual

/-- `_render_value`. -/
def renderValue : Json → Option String
  | .null => none
  | .bool value => some (if value then "yes" else "no")
  | .str value => orNone (strip (collapseSpace value))
  | .int value => some (m.formatGeneral (.int value))
  | .float value => some (m.formatGeneral (.float value))
  | .arr items => orNone (", ".intercalate (renderItems items))
  | .obj members => some (dumps true (.obj members))

def renderItems : List Json → List String
  | [] => []
  | item :: items => ((renderValue item).filter (· ≠ "")).toList ++ renderItems items

end

def eventLines (event : E) : List String :=
  ["Source: " ++ m.source event, "Event type: " ++ m.eventType event, "Event ID: " ++ m.eventId event,
    "Occurred at: " ++ m.isoformat (m.occurredAt event)] ++
  ((m.location event).map fun location =>
    "Coordinates: " ++ m.formatFixed location.1 ++ ", " ++ m.formatFixed location.2).toList ++
  documentTextFields.filterMap fun field =>
    (renderValue m ((m.payload event field.1).getD .null)).map fun rendered => field.2 ++ ": " ++ rendered

def renderEventDocument (event : E) : String :=
  String.ofList (("\n".intercalate (eventLines m event)).toList.take maxDocumentCharacters)

def documentHash (text : String) : String := m.sha256 text

/-- A document has text, of a bounded length. -/
theorem length_renderEventDocument (event : E) :
    1 ≤ (renderEventDocument m event).length ∧ (renderEventDocument m event).length ≤ maxDocumentCharacters := by
  have hlen : 1 ≤ ("\n".intercalate (eventLines m event)).toList.length := by
    simp [eventLines, String.toList_intercalate]
  rw [renderEventDocument, ← String.length_toList, String.toList_ofList, List.length_take]
  unfold maxDocumentCharacters
  omega

end

end AtlasPulse
