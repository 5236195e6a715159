import SourceScan.Proofs.Config.RoundTrip
import SourceScan.Proofs.Json.Frame
import SourceScan.Proofs.Json.RecordTruncation
import SourceScan.Proofs.Json.Render

/-!
# Proofs/Config/Truncation — a configuration that is cut off

A document whose root is a list or an object is none without the bracket that closes the root, for
the root would have to close in two places.  So no front of a configuration is loaded that lacks
this bracket, whatever defaults there are for what is missing; and if the configuration names no
unknown field, the front is at fault for nothing but that it has ended.

* `Json.Closes` — where the root of a document closes.
* `Json.not_document_of_lt` — no document is a front of another one that lacks its bracket.
* `Config.NamesOnlyFields` — a configuration without unknown fields.
* `ScannerConfig.cutsAt`, `LogConfig.cutsAt`, `Config.cut_reading` — the parts and the whole, cut.
* `Config.load_front` — the law of fronts.
-/

namespace SourceScan

namespace Json

variable {α : Type} {text front back rest : List Char}

/-- **Where the root of a document closes**: the text in front of its bracket, and the blanks behind
it. -/
structure Closes (text body gap : List Char) : Prop where
  split : ∃ bracket : Bracket, text = body ++ bracket.closer :: gap
  root : ∃ tree : Tree, tree.Written text gap
  blanks : Blanks gap []

/-- A record is a list or an object. -/
theorem Tree.bracketed_of_entries? {tree : Tree} {known : List String}
    {entries : List (String × Tree)} (found : tree.entries? known = some entries) :
    tree.Bracketed := by
  obtain ⟨_, rfl, -⟩ | ⟨_, rfl, -⟩ := entries?_eq_some_iff.mp found
  · trivial
  · trivial

/-- **No front of a bracket that lacks its closing character is a document.** -/
theorem not_document_of_lt {tree other : Tree} (written : tree.Written (front ++ back) rest)
    (bracketed : tree.Bracketed) (short : rest.length < back.length) : ¬ Document other front := by
  rintro ⟨rest', written', -⟩
  obtain ⟨-, rfl⟩ := written.unique (written'.append back) rfl (.inl bracketed)
  rw [List.length_append] at short
  omega

/-- **A document ends** where its value is cut off. -/
theorem Cut.ended_document {reading : Reading α} {value : α}
    (cut : Cut (reading front) back value rest) (short : rest.length < back.length) :
    Ended (document reading front) := by
  obtain ended | ⟨left, rfl, -⟩ := cut
  · exact ended.bind _
  · rw [List.length_append] at short
    omega

/-- An object with fields under known keys names no other. -/
theorem namesOnly_tree {fields : List (String × Json)} {known : List String}
    {within : String → Tree → Prop} (distinct : (fields.map Prod.fst).Nodup)
    (each : ∀ field ∈ fields, field.1 ∈ known ∧ within field.1 field.2.tree) :
    (object fields).tree.NamesOnly known within := by
  intro entries found entry member
  obtain rfl := Option.some.inj ((entries?_tree distinct known).symm.trans found)
  obtain ⟨field, isField, rfl⟩ := List.mem_map.mp member
  exact each field isField

/-- The same is cut where the meaning is the same. -/
theorem CutsAt.congr {reading : Reading α} {meaning meaning' : Tree → Option α}
    {within : Tree → Prop} (cuts : CutsAt reading meaning within)
    (same : ∀ tree, meaning tree = meaning' tree) : CutsAt reading meaning' within :=
  funext same ▸ cuts

end Json

open Json (Tree Document Closes CutsAt Cut)

/-! ## The parts of a configuration -/

/-- **The settings for reading without unknown fields.** -/
def ScannerConfig.NamesOnlyFields : Tree → Prop := Tree.NamesOnly ["read_capacity"] fun _ _ => True

/-- **The settings of a log without unknown fields.** -/
def LogConfig.NamesOnlyFields : Tree → Prop :=
  Tree.NamesOnly ["global", "lexer", "format"] fun _ _ => True

/-- **A configuration without unknown fields**, in the whole and in its parts. -/
def Config.NamesOnlyFields : Tree → Prop :=
  Tree.NamesOnly ["scanner", "log"] fun key =>
    if key = "scanner" then ScannerConfig.NamesOnlyFields else LogConfig.NamesOnlyFields

theorem ScannerConfig.cutsAt : CutsAt reading meaning? NamesOnlyFields := by
  have each : ∀ field ∈ spec.fields, CutsAt field.reading field.meaning fun _ => True :=
    List.forall_mem_singleton.mpr (Json.cutsAt_unsigned _ _)
  exact (spec.cutsAt_record "struct ScannerConfig" {} each).congr fun _ => bind_congr spec_fill

theorem LogConfig.cutsAt : CutsAt reading meaning? NamesOnlyFields := by
  have global : CutsAt globalField.reading globalField.meaning fun _ => True :=
    globalField.recognizes.cutsAt Json.cut_choice _
  have lexer : CutsAt lexerField.reading lexerField.meaning fun _ => True :=
    lexerField.recognizes.cutsAt (Json.cut_optional Json.ended_choice Json.cut_choice) _
  have format : CutsAt formatField.reading formatField.meaning fun _ => True :=
    formatField.recognizes.cutsAt Json.cut_choice _
  have each : ∀ field ∈ spec.fields, CutsAt field.reading field.meaning fun _ => True :=
    List.forall_mem_cons.mpr ⟨global, List.forall_mem_cons.mpr
      ⟨lexer, List.forall_mem_singleton.mpr format⟩⟩
  exact (spec.cutsAt_record "struct LogConfig" {} each).congr fun _ => bind_congr spec_fill

namespace Config

/-- **A configuration is cut** in one of its parts or between two. -/
theorem cut_reading {tree : Tree} {front back rest : List Char} {config : Config}
    (written : tree.Written (front ++ back) rest) (means : meaning? tree = some config)
    (names : NamesOnlyFields tree) : Cut (reading front) back config rest := by
  have same : spec.meaning? {} tree = meaning? tree := bind_congr spec_fill
  have each : ∀ field ∈ spec.fields, CutsAt field.reading field.meaning
      (if field.key = "scanner" then ScannerConfig.NamesOnlyFields
        else LogConfig.NamesOnlyFields) := by
    refine List.forall_mem_cons.mpr ⟨?_, List.forall_mem_singleton.mpr ?_⟩
    · have isScanner : scannerField.key = "scanner" := rfl
      rw [if_pos isScanner]
      exact ScannerConfig.cutsAt
    · have noScanner : logField.key ≠ "scanner" := by decide
      rw [if_neg noScanner]
      exact LogConfig.cutsAt
  exact spec.cut_record "struct Config" each written (same.trans means) names

/-- **The law of fronts.**  The root of a text that is loaded closes somewhere, with a bracket that
has only blanks behind it.  No front of the text that lacks this bracket is loaded, be it empty; and
if the text names no unknown field, the front fails because it has ended, and for no other cause. -/
theorem load_front (text : String) (config : Config) (loaded : load text = .ok config) :
    (∃ body gap, Closes text.toList body gap) ∧
    ∀ body gap, Closes text.toList body gap → ∀ front : String, front.toList <+: body →
      ∃ error, load front = .error error ∧
        ((∀ tree, Document tree text.toList → NamesOnlyFields tree) →
          error.cause.category = .truncated) := by
  obtain ⟨tree, ⟨gap, written, blanks⟩, means⟩ := (load_eq_ok_iff text config).mp loaded
  have isDocument : Document tree text.toList := ⟨gap, written, blanks⟩
  obtain ⟨entries, isEntries, -⟩ := Option.bind_eq_some_iff.mp means
  have bracketed := Tree.bracketed_of_entries? isEntries
  constructor
  · obtain ⟨body, bracket, split⟩ := written.exists_closer bracketed
    exact ⟨body, gap, ⟨bracket, split⟩, ⟨tree, written⟩, blanks⟩
  rintro body gap' ⟨⟨bracket, split⟩, ⟨other, written'⟩, -⟩ front ⟨more, rfl⟩
  obtain ⟨rfl, rfl⟩ := written.unique written' rfl (.inl bracketed)
  -- The cut leaves the bracket behind it.
  have cut : text.toList = front.toList ++ (more ++ bracket.closer :: gap) := by
    rw [split, List.append_assoc]
  have short : gap.length < (more ++ bracket.closer :: gap).length := by
    rw [List.length_append, List.length_cons]
    omega
  rw [cut] at written isDocument
  cases result : Json.document reading front.toList with
  | ok found =>
    obtain ⟨other, isOther, -⟩ := (Json.document_eq_ok_iff recognizes).mp result
    exact absurd isOther (Json.not_document_of_lt written bracketed short)
  | error fault =>
    refine ⟨⟨fault.cause, fault.place front.toList⟩, by rw [load, result]; rfl, fun names => ?_⟩
    have ended := (cut_reading written means (names tree (cut ▸ isDocument))).ended_document short
    obtain ⟨_, same, truncated⟩ := ended
    obtain rfl := Except.error.inj (result.symm.trans same)
    exact truncated

/-- Under an unknown key, a front of a number may be malformed. -/
example : load "\x7b\"x\":-1\x7d" = .ok {} ∧
    load "\x7b\"x\":-" = .error ⟨.invalidNumber, ⟨1, 6⟩⟩ := by decide +kernel

/-- The document of a configuration names its own fields. -/
theorem namesOnlyFields_tree (config : Config) : NamesOnlyFields config.toJson.tree := by
  have scanner : ScannerConfig.NamesOnlyFields config.scanner.toJson.tree :=
    Json.namesOnly_tree (by simp) (by simp)
  have log : LogConfig.NamesOnlyFields config.log.toJson.tree :=
    Json.namesOnly_tree (by simp) (by simp)
  exact Json.namesOnly_tree (by simp) (by simp [scanner, log])

/-- A capacity that is cut between its digits is a number still, but the document has ended; and so
it has where there is nothing at all. -/
theorem load_front_digits :
    (∃ error, load "\x7b\"scanner\":\x7b\"read_capacity\":40" = .error error ∧
      error.cause.category = .truncated) ∧
    ∃ error, load "" = .error error ∧ error.cause.category = .truncated := by
  obtain ⟨-, fronts⟩ := load_front (dump {}) {} (load_dump {})
  have closes : Closes (dump {}).toList ((dump {}).toList.dropLast) [] :=
    { split := ⟨.object, by decide +kernel⟩
      root := by
        rw [dump, Json.render, String.toList_ofList, ← List.append_nil (Json.chars _)]
        exact ⟨_, Json.written_tree _ []⟩
      blanks := .refl [] }
  have names (tree : Tree) (isDocument : Document tree (dump {}).toList) :
      NamesOnlyFields tree :=
    Json.document_render_iff.mp isDocument ▸ namesOnlyFields_tree {}
  obtain ⟨error, failed, truncated⟩ :=
    fronts _ _ closes "\x7b\"scanner\":\x7b\"read_capacity\":40" (by decide +kernel)
  obtain ⟨error', failed', truncated'⟩ := fronts _ _ closes "" (by decide)
  exact ⟨⟨error, failed, truncated names⟩, ⟨error', failed', truncated' names⟩⟩

end Config

end SourceScan
