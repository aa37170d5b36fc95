/-
Module: VolumeAttach.Proofs.SettingChecks
Purpose: What is asked of each setting, and that validation refuses the first that falls short.
Main exports: Scheme.name, AgentSettings.Accepts, AgentSettings.refusal,
  AgentSettings.cluster?_eq_ok_some_iff, AgentSettings.requireCluster_eq_ok_iff,
  AgentSettings.validate_eq_ok_iff, AgentSettings.validate_eq_error_iff
-/
import VolumeAttach.Proofs.Spellings
import VolumeAttach.Settings.Agent

namespace VolumeAttach

open Text

/-!
Validation works out what the settings stand for and throws the values away; whoever uses
a setting works it out again.  The two agree because both succeed exactly on what a setting
accepts, which is said here without either of them.
-/

/-! ### Checks in a row -/

section Checks

variable {α ε : Type} {check : α → Except ε Unit} {xs : List α} {e : ε}

theorem forM_cons (check : α → Except ε Unit) (x : α) (rest : List α) :
    (x :: rest).forM check = check x >>= fun _ => rest.forM check := rfl

/-- Checks in a row pass exactly if each passes. -/
theorem forM_eq_ok_iff : xs.forM check = .ok () ↔ ∀ x ∈ xs, check x = .ok () := by
  induction xs with
  | nil => simp [List.forM, pure, Except.pure]
  | cons x rest ih =>
      rw [forM_cons, List.forall_mem_cons, ← ih]
      cases check x with
      | ok => exact (and_iff_right rfl).symm
      | error cause => exact ⟨nofun, fun h => nomatch h.1⟩

theorem forM_cons_eq_error_iff {x : α} {rest : List α} :
    (x :: rest).forM check = .error e ↔
      check x = .error e ∨ (check x = .ok () ∧ rest.forM check = .error e) := by
  rw [forM_cons]
  cases check x with
  | ok => exact ⟨fun h => .inr ⟨rfl, h⟩, fun h => (h.resolve_left nofun).2⟩
  | error cause => exact ⟨.inl, fun h => h.resolve_right fun passed => nomatch passed.1⟩

/-- They fail as the first of them that does not pass. -/
theorem forM_eq_error_iff :
    xs.forM check = .error e ↔
      ∃ earlier x later, xs = earlier ++ x :: later ∧
        (∀ y ∈ earlier, check y = .ok ()) ∧ check x = .error e := by
  induction xs with
  | nil => simp [List.forM, pure, Except.pure]
  | cons x rest ih =>
      rw [forM_cons_eq_error_iff, ih]
      constructor
      · intro h
        rcases h with failed | ⟨passed, earlier, y, later, rfl, before, failed⟩
        · exact ⟨[], x, rest, rfl, nofun, failed⟩
        · exact ⟨x :: earlier, y, later, rfl, List.forall_mem_cons.mpr ⟨passed, before⟩, failed⟩
      · intro h
        obtain ⟨earlier, y, later, whole, before, failed⟩ := h
        cases earlier with
        | nil =>
            obtain ⟨rfl, rfl⟩ := List.cons.inj whole
            exact .inl failed
        | cons z earlier =>
            obtain ⟨rfl, rfl⟩ := List.cons.inj whole
            obtain ⟨passed, before⟩ := List.forall_mem_cons.mp before
            exact .inr ⟨passed, earlier, y, later, rfl, before, failed⟩

end Checks

/-! ### The name of a scheme -/

namespace Scheme

/-- The name under which a scheme is configured. -/
def name : Scheme → String
  | .xen => "xen"
  | .identity => "identity"

theorem ofName?_eq_some_iff {text : String} {scheme : Scheme} :
    ofName? text = some scheme ↔ text = scheme.name := by
  unfold ofName?
  split
  · cases scheme <;> simp [name]
  · cases scheme <;> simp [name]
  · rename_i notXen notIdentity
    cases scheme with
    | xen => simpa [name] using notXen
    | identity => simpa [name] using notIdentity

/-- A scheme is read from a text exactly if the text is its name, in any case of its letters
and with any blanks around it. -/
theorem parse_eq_ok_iff {text : String} {scheme : Scheme} :
    parse text = .ok scheme ↔ (trimBlank text.toList).map Char.toLower = scheme.name.toList := by
  have normal : normalName text = scheme.name ↔
      (trimBlank text.toList).map Char.toLower = scheme.name.toList := by
    rw [← String.toList_inj, normalName, String.toList_ofList]
  rw [← normal, ← ofName?_eq_some_iff, parse]
  cases ofName? (normalName text) <;> simp

end Scheme

namespace AgentSettings

variable {s : AgentSettings} {u : Uuid} {e : SettingsError} {setting : Setting} {root : String}

/-! ### The cluster -/

/-- A cluster is configured exactly by its spellings, with any blanks around them. -/
theorem cluster?_eq_ok_some_iff :
    s.cluster? = .ok (some u) ↔
      ∃ raw, s.clusterId = some raw ∧ u.IsSpelling (trimBlank raw.toList) := by
  unfold cluster?
  cases s.clusterId with
  | none => simp
  | some raw =>
      have read : Uuid.parse (trim raw) = .ok u ↔ u.IsSpelling (trimBlank raw.toList) := by
        rw [Uuid.parse_eq_ok_iff, toList_trim]
      simp only [Option.some.injEq, exists_eq_left']
      rw [← read]
      cases Uuid.parse (trim raw) <;> simp

theorem cluster?_eq_ok_none_iff : s.cluster? = .ok none ↔ s.clusterId = none := by
  unfold cluster?
  cases s.clusterId with
  | none => simp
  | some raw => cases h : Uuid.parse (trim raw) <;> simp [h]

/-- Asking for the cluster gives it exactly if one is configured. -/
theorem requireCluster_eq_ok_iff :
    s.requireCluster = .ok u ↔
      ∃ raw, s.clusterId = some raw ∧ u.IsSpelling (trimBlank raw.toList) := by
  rw [← cluster?_eq_ok_some_iff, requireCluster]
  cases s.cluster? with
  | error cause => simp
  | ok found => cases found <;> simp

/-- Blanks around a spelling of the cluster do not matter. -/
theorem requireCluster_of_padded {front spelled back : List Char} (before : IsAllBlank front)
    (behind : IsAllBlank back) (spells : u.IsSpelling spelled)
    (configured : s.clusterId = some (String.ofList (front ++ spelled ++ back))) :
    s.requireCluster = .ok u := by
  rw [requireCluster_eq_ok_iff]
  refine ⟨_, configured, ?_⟩
  rw [String.toList_ofList, trimBlank_padded before behind spells.isTrimmed]
  exact spells

/-! ### Every setting -/

/-- A text that names a directory: it is an absolute path and not blank throughout. -/
def IsDirectory (root : String) : Prop :=
  ¬ IsAllBlank root.toList ∧ (DevicePath.mk root).isAbsolute = true

instance (root : String) : Decidable (IsDirectory root) :=
  inferInstanceAs (Decidable (_ ∧ _))

/-- What is asked of a setting. -/
def Accepts (s : AgentSettings) : Setting → Prop
  | .clusterId => ∀ raw, s.clusterId = some raw → ∃ u : Uuid, u.IsSpelling (trimBlank raw.toList)
  | .blockRoot => IsDirectory s.blockRoot
  | .deviceRoot => IsDirectory s.deviceRoot
  | .scheme => ∃ scheme : Scheme, (trimBlank s.scheme.toList).map Char.toLower = scheme.name.toList
  | .pollInterval => 0 < s.pollInterval
  | .deviceTimeout => True

/-- How a directory is refused: one that is blank throughout counts as not given. -/
def rootRefusal (setting : Setting) (root : String) : SettingsError :=
  if IsAllBlank root.toList then .missing setting else .invalid setting root

/-- How a setting is refused.  A message shows the text that is wrong. -/
def refusal (s : AgentSettings) : Setting → SettingsError
  | .clusterId => .invalid .clusterId (s.clusterId.getD "")
  | .blockRoot => rootRefusal .blockRoot s.blockRoot
  | .deviceRoot => rootRefusal .deviceRoot s.deviceRoot
  | .scheme => .invalid .scheme s.scheme
  | .pollInterval => .invalid .pollInterval "0"
  | .deviceTimeout => .invalid .deviceTimeout (toString s.deviceTimeout)

/-- Nothing but a directory that is blank throughout counts as missing. -/
theorem refusal_eq_missing_iff {named : Setting} :
    s.refusal setting = .missing named ↔
      named = setting ∧ ((setting = .blockRoot ∧ IsAllBlank s.blockRoot.toList) ∨
        (setting = .deviceRoot ∧ IsAllBlank s.deviceRoot.toList)) := by
  have root : ∀ (place : Setting) (text : String), rootRefusal place text = .missing named ↔
      named = place ∧ IsAllBlank text.toList := by
    intro place text
    unfold rootRefusal
    split
    · rename_i blank
      simp [blank, eq_comm]
    · rename_i visible
      simp [visible]
  cases setting with
  | blockRoot => simp [refusal, root]
  | deviceRoot => simp [refusal, root]
  | _ => simp [refusal]

/-- The settings that are checked, in order. -/
def checked : List Setting := [.clusterId, .blockRoot, .deviceRoot, .scheme, .pollInterval]

/-- The check of a setting. -/
def check (s : AgentSettings) : Setting → Except SettingsError Unit
  | .clusterId => s.cluster?.map fun _ => ()
  | .blockRoot => requireAbsolute .blockRoot s.blockRoot
  | .deviceRoot => requireAbsolute .deviceRoot s.deviceRoot
  | .scheme => s.namingScheme.map fun _ => ()
  | .pollInterval => requirePause s.pollInterval
  | .deviceTimeout => .ok ()

/-- Validation is the checks in order. -/
theorem validate_eq_forM (s : AgentSettings) : s.validate = checked.forM s.check := by
  have drops : ∀ {α : Type} (found : Except SettingsError α) (next : Except SettingsError Unit),
      (found.map (fun _ => ()) >>= fun _ => next) = found >>= fun _ => next := by
    intro α found next
    cases found <;> rfl
  have last : ∀ x : Except SettingsError Unit, (x >>= fun _ => pure ()) = x := by
    intro x
    cases x <;> rfl
  simp only [checked, List.forM, check, drops, last]
  rfl

theorem requireAbsolute_eq (setting : Setting) (root : String) :
    requireAbsolute setting root =
      if IsDirectory root then .ok () else .error (rootRefusal setting root) := by
  by_cases blank : IsAllBlank root.toList
  · simp [requireAbsolute, IsDirectory, rootRefusal, trim_eq_empty_iff, blank]
  · simp [requireAbsolute, IsDirectory, rootRefusal, trim_eq_empty_iff, blank]

/-- A setting passes its check if it is accepted, and is refused otherwise. -/
theorem check_cases (s : AgentSettings) (setting : Setting) :
    (s.Accepts setting ∧ s.check setting = .ok ()) ∨
      (¬ s.Accepts setting ∧ s.check setting = .error (s.refusal setting)) := by
  cases setting with
  | clusterId =>
      unfold Accepts check refusal cluster?
      cases s.clusterId with
      | none => exact .inl ⟨nofun, rfl⟩
      | some raw =>
          have read : ∀ u : Uuid, Uuid.parse (trim raw) = .ok u ↔
              u.IsSpelling (trimBlank raw.toList) := by
            intro u
            rw [Uuid.parse_eq_ok_iff, toList_trim]
          cases h : Uuid.parse (trim raw) with
          | ok u =>
              refine .inl ⟨?_, by simp [h, Except.map]⟩
              intro same configured
              rw [← Option.some.inj configured]
              exact ⟨u, (read u).mp h⟩
          | error cause =>
              refine .inr ⟨?_, by simp [h, Except.map]⟩
              intro spelled
              obtain ⟨u, spells⟩ := spelled raw rfl
              rw [(read u).mpr spells] at h
              cases h
  | blockRoot =>
      rw [check, requireAbsolute_eq, Accepts, refusal]
      by_cases directory : IsDirectory s.blockRoot <;> simp [directory]
  | deviceRoot =>
      rw [check, requireAbsolute_eq, Accepts, refusal]
      by_cases directory : IsDirectory s.deviceRoot <;> simp [directory]
  | scheme =>
      unfold check refusal namingScheme
      cases h : Scheme.parse s.scheme with
      | ok scheme => exact .inl ⟨⟨scheme, Scheme.parse_eq_ok_iff.mp h⟩, rfl⟩
      | error name =>
          refine .inr ⟨?_, rfl⟩
          intro accepted
          obtain ⟨scheme, named⟩ := accepted
          rw [Scheme.parse_eq_ok_iff.mpr named] at h
          cases h
  | pollInterval =>
      unfold Accepts check refusal requirePause
      by_cases zero : s.pollInterval = 0
      · exact .inr ⟨by simp [zero], if_pos zero⟩
      · exact .inl ⟨UInt64.pos_iff_ne_zero.mpr zero, if_neg zero⟩
  | deviceTimeout => exact .inl ⟨trivial, rfl⟩

theorem check_eq_ok_iff : s.check setting = .ok () ↔ s.Accepts setting := by
  rcases s.check_cases setting with ⟨accepted, passed⟩ | ⟨refused, failed⟩
  · simp [accepted, passed]
  · simp [refused, failed]

theorem check_eq_error_iff :
    s.check setting = .error e ↔ ¬ s.Accepts setting ∧ e = s.refusal setting := by
  rcases s.check_cases setting with ⟨accepted, passed⟩ | ⟨refused, failed⟩
  · simp [accepted, passed]
  · simp [refused, failed, eq_comm]

/-- Settings are valid exactly if each checked one is accepted. -/
theorem validate_eq_ok_iff : s.validate = .ok () ↔ ∀ setting ∈ checked, s.Accepts setting := by
  rw [validate_eq_forM, forM_eq_ok_iff]
  exact forall₂_congr fun setting _ => check_eq_ok_iff

/-- Settings that are not valid are refused for the first checked one that is not accepted. -/
theorem validate_eq_error_iff :
    s.validate = .error e ↔
      ∃ earlier setting later, checked = earlier ++ setting :: later ∧
        (∀ other ∈ earlier, s.Accepts other) ∧ ¬ s.Accepts setting ∧ e = s.refusal setting := by
  rw [validate_eq_forM, forM_eq_error_iff]
  simp only [check_eq_ok_iff, check_eq_error_iff]

end AgentSettings
end VolumeAttach
