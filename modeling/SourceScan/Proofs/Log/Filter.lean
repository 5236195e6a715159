import SourceScan.Proofs.Log.Session

/-!
# Proofs/Log/Filter — the filter of a log against the level of a target

A configuration gives every target a level, and so does its filter.  The filter goes by the text of
a target, and the configuration by its path: a target that only begins like the lexer's one is a
part of the lexer for the first and not for the second.

* `Level.hears_iff_iff` — two levels agree on a severity unless it lies between them.
* `Level.forall_hears_iff_iff` — two levels that agree on everything are one.
* `Filter.levelFor_ofConfig` — the level of a filter is the lexer's by the text of the target.
* `Filter.enables_iff_levelFor` — where filter and configuration agree, and on what they do not.
-/

namespace SourceScan.Log

/-! ## Levels and what lies between them -/

namespace Level

variable {level other : Level}

/-- **Two levels agree on a severity** unless it lies above the lower and not above the higher. -/
theorem hears_iff_iff {severity : Severity} :
    (level.hears severity = true ↔ severity.rank ≤ other.rank) ↔
      ¬ (min level.rank other.rank < severity.rank ∧
        severity.rank ≤ max level.rank other.rank) := by
  rw [hears, decide_eq_true_iff]
  omega

/-- A level that hears anything hears a severity of its own rank. -/
theorem exists_rank_eq (hears : 0 < level.rank) :
    ∃ severity : Severity, severity.rank = level.rank := by
  cases level with
  | off => cases hears
  | error => exact ⟨.error, rfl⟩
  | warn => exact ⟨.warn, rfl⟩
  | info => exact ⟨.info, rfl⟩
  | debug => exact ⟨.debug, rfl⟩
  | trace => exact ⟨.trace, rfl⟩

/-- **Two levels that agree on every severity** are one. -/
theorem forall_hears_iff_iff :
    (∀ severity : Severity, level.hears severity = true ↔ severity.rank ≤ other.rank) ↔
      level = other := by
  constructor
  · intro agree
    by_contra differ
    have apart : level.rank ≠ other.rank := fun same => differ (rank_injective same)
    -- The louder of the two hears a severity that the quieter one does not.
    obtain ⟨severity, loudest⟩ :
        ∃ severity : Severity, severity.rank = max level.rank other.rank := by
      obtain quieter | louder := Nat.lt_or_gt_of_ne apart
      · rw [Nat.max_eq_right (Nat.le_of_lt quieter)]
        exact exists_rank_eq (Nat.zero_lt_of_lt quieter)
      · rw [Nat.max_eq_left (Nat.le_of_lt louder)]
        exact exists_rank_eq (Nat.zero_lt_of_lt louder)
    refine hears_iff_iff.mp (agree severity) ⟨?_, Nat.le_of_eq loudest⟩
    omega
  · rintro rfl severity
    exact decide_eq_true_iff

end Level

/-! ## The two levels of a target -/

namespace Filter

variable {config : LogConfig} {target : String}

/-- **A filter goes by the text of a target.** -/
theorem levelFor_ofConfig (config : LogConfig) (target : String) :
    (ofConfig config).levelFor target =
      if lexerTarget.toList <+: target.toList then config.lexerLevel else config.global := by
  rw [levelFor, ofConfig, LogConfig.levelFor_lexerTarget]

/-- A target of the lexer begins with its text. -/
theorem isPrefix_of_path
    (path : target = lexerTarget ∨ (lexerTarget ++ "::").toList <+: target.toList) :
    lexerTarget.toList <+: target.toList := by
  obtain rfl | below := path
  · exact List.prefix_refl _
  · rw [String.toList_append] at below
    exact (List.prefix_append _ _).trans below

/-- **Filter and configuration have one level for a target** unless it begins with the text of the
lexer and is none of its paths. -/
theorem levelFor_ofConfig_eq_iff :
    (ofConfig config).levelFor target = config.levelFor target ↔
      ¬ lexerTarget.toList <+: target.toList ∨
        (target = lexerTarget ∨ (lexerTarget ++ "::").toList <+: target.toList) ∨
        config.lexerLevel = config.global := by
  rw [levelFor_ofConfig, LogConfig.levelFor]
  by_cases path : target = lexerTarget ∨ (lexerTarget ++ "::").toList <+: target.toList
  · rw [if_pos (isPrefix_of_path path), if_pos path]
    exact iff_of_true rfl (.inr (.inl path))
  · rw [if_neg path]
    by_cases text : lexerTarget.toList <+: target.toList
    · rw [if_pos text]
      exact ⟨fun same => .inr (.inr same), fun agree =>
        (agree.resolve_left (not_not_intro text)).resolve_left path⟩
    · rw [if_neg text]
      exact iff_of_true rfl (.inl text)

/-- **Where the filter of a configuration and its level for a target agree.**  At a target the
filter lets exactly the severities pass that are at or below the level for the target just if the
target does not begin with the text of the lexer, or is its target or a path below it, or the lexer
has the level of everything else.  Otherwise the two disagree on exactly the severities above the
lower of these levels and at or below the higher. -/
theorem enables_iff_levelFor (config : LogConfig) (target : String) :
    ((∀ severity, (ofConfig config).enables target severity = true ↔
        severity.rank ≤ (config.levelFor target).rank) ↔
      ¬ lexerTarget.toList <+: target.toList ∨
        (target = lexerTarget ∨ (lexerTarget ++ "::").toList <+: target.toList) ∨
        config.lexer.getD config.global = config.global) ∧
    (lexerTarget.toList <+: target.toList → target ≠ lexerTarget →
      ¬ (lexerTarget ++ "::").toList <+: target.toList →
      config.lexer.getD config.global ≠ config.global →
      ∀ severity, ¬ ((ofConfig config).enables target severity = true ↔
          severity.rank ≤ (config.levelFor target).rank) ↔
        min (config.lexer.getD config.global).rank config.global.rank < severity.rank ∧
          severity.rank ≤ max (config.lexer.getD config.global).rank config.global.rank) := by
  constructor
  · exact Level.forall_hears_iff_iff.trans levelFor_ofConfig_eq_iff
  · intro text other notBelow _ severity
    have loud : (ofConfig config).levelFor target = config.lexer.getD config.global := by
      rw [levelFor_ofConfig, if_pos text]
      rfl
    have quiet : config.levelFor target = config.global := if_neg (not_or.mpr ⟨other, notBelow⟩)
    rw [enables, loud, quiet, Level.hears_iff_iff, Classical.not_not]

/-- A target that only begins like the lexer's one: a lexer louder than all else is heard there at
the severities from `info` on, against the level for the target, and a path below the lexer is not
in doubt. -/
theorem enables_iff_levelFor_beginning :
    let config : LogConfig := ⟨.warn, some .trace, .compact⟩
    (∀ severity, ¬ ((ofConfig config).enables "gfn::lexerx" severity = true ↔
        severity.rank ≤ (config.levelFor "gfn::lexerx").rank) ↔
      Level.warn.rank < severity.rank ∧ severity.rank ≤ Level.trace.rank) ∧
    (∀ severity, (ofConfig config).enables "gfn::lexer::x" severity = true ↔
      severity.rank ≤ (config.levelFor "gfn::lexer::x").rank) := by
  intro config
  refine ⟨(enables_iff_levelFor config "gfn::lexerx").2 (by decide) (by decide) (by decide)
    (by decide), (enables_iff_levelFor config "gfn::lexer::x").1.mpr (.inr (.inl (.inr ?_)))⟩
  decide

end Filter

end SourceScan.Log
