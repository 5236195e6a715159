import SourceScan.Proofs.Config.Loading
import SourceScan.Proofs.Json.Compact

/-!
# Proofs/Config/RoundTrip — a configuration comes back from its document

The document of a configuration is the compact text of a value, and the tree of that value means
the configuration to the schema.  So every configuration is loaded from its own document, and the
document stands for the configuration, however the text it was first loaded from was written.

* `ScannerConfig.meaning?_tree`, `LogConfig.meaning?_tree`, `Config.meaning?_tree` — the parts.
* `Config.load_dump` — a configuration is loaded from its document.
* `Config.load_reload` — reloading, and telling configurations apart by their documents.
-/

namespace SourceScan

open Json (entries?_tree unsigned?_tree choice?_tree)

/-! ## The trees of the parts -/

theorem Log.Level.meaning?_tree (level : Level) :
    meaning? (Json.string level.name).tree = some level := by
  rw [meaning?, choice?_tree]
  cases level <;> rfl

theorem Log.Format.meaning?_tree (format : Format) :
    meaning? (Json.string format.name).tree = some format := by
  rw [meaning?, choice?_tree]
  cases format <;> rfl

/-- No level of its own is a null, and a level is its name. -/
theorem LogConfig.optional?_tree (lexer : Option Log.Level) :
    (lexer.elim Json.null fun level => .string level.name).tree.optional? Log.Level.meaning? =
      some lexer := by
  cases lexer with
  | none => rfl
  | some level => exact congrArg (Option.map some) (Log.Level.meaning?_tree level)

theorem ScannerConfig.meaning?_tree (config : ScannerConfig) :
    meaning? config.toJson.tree = some config := by
  rw [meaning?, toJson]
  refine Option.bind_eq_some_iff.mpr ⟨_, entries?_tree ?_ _, ?_⟩
  · exact List.nodup_singleton "read_capacity"
  exact Option.bind_eq_some_iff.mpr ⟨_, unsigned?_tree config.readCapacity, rfl⟩

theorem LogConfig.meaning?_tree (config : LogConfig) :
    meaning? config.toJson.tree = some config := by
  have distinct : ["global", "lexer", "format"].Nodup := by decide
  rw [meaning?, toJson]
  refine Option.bind_eq_some_iff.mpr ⟨_, entries?_tree ?_ _, ?_⟩
  · exact distinct
  refine Option.bind_eq_some_iff.mpr ⟨_, Log.Level.meaning?_tree config.global, ?_⟩
  refine Option.bind_eq_some_iff.mpr ⟨_, optional?_tree config.lexer, ?_⟩
  exact Option.bind_eq_some_iff.mpr ⟨_, Log.Format.meaning?_tree config.format, rfl⟩

theorem Config.meaning?_tree (config : Config) : meaning? config.toJson.tree = some config := by
  have distinct : ["scanner", "log"].Nodup := by decide
  rw [meaning?, toJson]
  refine Option.bind_eq_some_iff.mpr ⟨_, entries?_tree ?_ _, ?_⟩
  · exact distinct
  refine Option.bind_eq_some_iff.mpr ⟨_, ScannerConfig.meaning?_tree config.scanner, ?_⟩
  exact Option.bind_eq_some_iff.mpr ⟨_, LogConfig.meaning?_tree config.log, rfl⟩

/-! ## Loading a document that was made -/

namespace Config

/-- **A configuration is loaded from its document.** -/
theorem load_dump (config : Config) : load config.dump = .ok config := by
  have found : Json.document reading config.dump.toList = .ok config :=
    (Json.document_eq_ok_iff recognizes).mpr
      ⟨config.toJson.tree, Json.document_render _, config.meaning?_tree⟩
  rw [load, found]
  rfl

/-- **Configurations are told apart by their documents.** -/
theorem dump_injective : Function.Injective dump := by
  intro config config' same
  have loaded := load_dump config
  rw [same, load_dump config'] at loaded
  exact (Except.ok.inj loaded).symm

/-- **Documents and configurations.**  Every configuration is loaded from its document.  So what is
loaded from any text is loaded again from its document, and two texts are of one configuration
exactly if the documents of what is loaded from them are the same. -/
theorem load_reload :
    (∀ config, load config.dump = .ok config) ∧
    (∀ text, (load text >>= fun config => load config.dump) = load text) ∧
    ∀ text text' config config', load text = .ok config → load text' = .ok config' →
      (load text = load text' ↔ config.dump = config'.dump) := by
  refine ⟨load_dump, fun text => ?_, fun text text' config config' loaded loaded' => ?_⟩
  · have returns : (fun config => load config.dump) = pure := funext load_dump
    rw [returns, bind_pure]
  · rw [loaded, loaded', Except.ok.injEq]
    exact dump_injective.eq_iff.symm

/-- The largest capacity comes back.  A list of fields and an object that names its keys in another
order, one of them unknown, are of one configuration, because they have one document. -/
theorem load_reload_forms :
    let config : Config := ⟨{}, ⟨.off, none, .json⟩⟩
    let listed := "[[4096], [\"off\", null, \x7b\"json\": null\x7d]]"
    let keyed := "\x7b\"log\":\x7b\"format\":\"json\",\"x\":[1],\"global\":\"\\u006fff\"\x7d\x7d"
    load (dump { config with scanner := ⟨18446744073709551615⟩ }) =
      .ok { config with scanner := ⟨18446744073709551615⟩ } ∧
    (load listed >>= fun config => load config.dump) = .ok config ∧
    load listed = .ok config ∧ load keyed = .ok config ∧ load listed = load keyed := by
  obtain ⟨returned, reloaded, told⟩ := load_reload
  have ofListed : load "[[4096], [\"off\", null, \x7b\"json\": null\x7d]]" =
      .ok ⟨{}, ⟨.off, none, .json⟩⟩ := by decide +kernel
  have ofKeyed : load
      "\x7b\"log\":\x7b\"format\":\"json\",\"x\":[1],\"global\":\"\\u006fff\"\x7d\x7d" =
        .ok ⟨{}, ⟨.off, none, .json⟩⟩ := by decide +kernel
  exact ⟨returned _, (reloaded _).trans ofListed, ofListed, ofKeyed,
    (told _ _ _ _ ofListed ofKeyed).mpr rfl⟩

end Config

end SourceScan
