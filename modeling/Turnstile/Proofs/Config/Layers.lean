import Turnstile.Proofs.Config.Lines
import Turnstile.Proofs.Decimal.Integer

/-!
# A file of settings over variables

A key has the value that the file gives it, else that of the variable; a blank value counts as none.
Without quotes the file gives no blank value, so that a key with nothing written behind it shows the
variable.  What is found overrides settings: an address and a list of groups whatever they are, a
number if it is one.

* `Layered` — the value of a key in a file over variables;
* `layered_iff` — what is looked up, for files that give the key no blank value;
* `get?_eq_iff_of_layered` — when the value of the key is looked up;
* `quoted_of_blank` — a blank value stands in quotes;
* `Config.applyEnvironment_layered` — the settings that are overridden.
-/

set_option autoImplicit false

namespace Turnstile

namespace Environment

/-- The value of a variable. -/
def processValue? (process : List (String × String)) (key : String) : Option String :=
  (process.find? fun e => e.1 == key).map Prod.snd

/-- The value of a key in a file over variables: a blank one counts as none in both. -/
inductive Layered (contents : String) (process : List (String × String)) (key : String) :
    Option String → Prop
  | ofFile {v : String} (h : Gives (Text.pieces '\n' contents.toList) key v)
      (hv : Text.blank v = false) : Layered contents process key (some v)
  | ofProcess {v : String}
      (hfile : ∀ w, Gives (Text.pieces '\n' contents.toList) key w → Text.blank w = true)
      (h : processValue? process key = some v) (hv : Text.blank v = false) :
      Layered contents process key (some v)
  | unset (hfile : ∀ w, Gives (Text.pieces '\n' contents.toList) key w → Text.blank w = true)
      (hprocess : ∀ w, processValue? process key = some w → Text.blank w = true) :
      Layered contents process key none

/-- The file gives the key no blank value. -/
def Shows (contents key : String) : Prop :=
  ∀ v, Gives (Text.pieces '\n' contents.toList) key v → Text.blank v = false

variable {contents key : String} {process : List (String × String)} {u : Option String}

theorem shows_iff : Shows contents key ↔
    ((readFile contents).find? fun e => e.1 == key).all (fun e => !Text.blank e.2) = true := by
  rw [Option.all_eq_true]
  constructor
  · rintro h ⟨k, v⟩ hfound
    obtain rfl : k = key := by simpa using List.find?_some hfound
    rw [h v (find?_entries.mp hfound)]
    rfl
  · intro h v hv
    simpa using h (key, v) (find?_entries.mpr hv)

instance : Decidable (Shows contents key) := decidable_of_iff _ shows_iff.symm

theorem get?_eq_some_iff {env : Environment} {v : String} :
    env.get? key = some v ↔ env.lookup? key = some v ∧ Text.blank v = false := by
  rw [get?, Option.filter_eq_some_iff, Bool.not_eq_true']

theorem Shows.not_gives (h : Shows contents key)
    (hfile : ∀ w, Gives (Text.pieces '\n' contents.toList) key w → Text.blank w = true)
    (w : String) : ¬ Gives (Text.pieces '\n' contents.toList) key w := fun hw =>
  Bool.false_ne_true ((h w hw).symm.trans (hfile w hw))

/-- What is looked up is the value of the key, if the file gives it no blank one. -/
theorem get?_of_layered (hshows : Shows contents key) (h : Layered contents process key u) :
    (Environment.ofFile contents process).get? key = u := by
  cases h with
  | ofFile h hv => exact get?_eq_some_iff.mpr ⟨lookup?_of_gives h process, hv⟩
  | ofProcess hfile h hv =>
    refine get?_eq_some_iff.mpr ⟨?_, hv⟩
    rw [lookup?_of_not_gives (hshows.not_gives hfile)]
    exact h
  | unset hfile hprocess =>
    rw [get?, lookup?_of_not_gives (hshows.not_gives hfile), Option.filter_eq_none_iff]
    intro w hw
    rw [hprocess w hw]
    exact Bool.false_ne_true

/-- Every key has a value in the two layers, or none. -/
theorem exists_layered (contents : String) (process : List (String × String)) (key : String) :
    ∃ u, Layered contents process key u := by
  by_cases hfile : ∃ v, Gives (Text.pieces '\n' contents.toList) key v ∧ Text.blank v = false
  · obtain ⟨v, hv, hblank⟩ := hfile
    exact ⟨some v, .ofFile hv hblank⟩
  · have hblank : ∀ w, Gives (Text.pieces '\n' contents.toList) key w → Text.blank w = true := by
      simpa using hfile
    by_cases hprocess : ∃ v, processValue? process key = some v ∧ Text.blank v = false
    · obtain ⟨v, hv, hshown⟩ := hprocess
      exact ⟨some v, .ofProcess hblank hv hshown⟩
    · exact ⟨none, .unset hblank (by simpa using hprocess)⟩

theorem layered_iff (hshows : Shows contents key) :
    Layered contents process key u ↔ (Environment.ofFile contents process).get? key = u := by
  refine ⟨get?_of_layered hshows, ?_⟩
  rintro rfl
  obtain ⟨u, hu⟩ := exists_layered contents process key
  rwa [get?_of_layered hshows hu]

/-- A blank value in the file hides the variable. -/
theorem get?_of_not_shows (h : ¬ Shows contents key) (process : List (String × String)) :
    (Environment.ofFile contents process).get? key = none := by
  obtain ⟨v, hv, hblank⟩ :
      ∃ v, Gives (Text.pieces '\n' contents.toList) key v ∧ Text.blank v = true := by
    simpa [Shows] using h
  rw [get?, lookup?_of_gives hv, Option.filter_eq_none_iff]
  intro w hw
  cases hw
  rw [hblank]
  exact Bool.false_ne_true

/-- What is looked up is the value of the key exactly if the file gives it no blank one, or there is
no value. -/
theorem get?_eq_iff_of_layered (h : Layered contents process key u) :
    (Environment.ofFile contents process).get? key = u ↔ Shows contents key ∨ u = none := by
  constructor
  · intro hget
    refine or_iff_not_imp_left.mpr fun hhidden => ?_
    rw [← hget, get?_of_not_shows hhidden]
  · rintro (hshows | rfl)
    · exact get?_of_layered hshows h
    · by_cases hshows : Shows contents key
      · exact get?_of_layered hshows h
      · exact get?_of_not_shows hshows process

/-- A blank value stands in quotes. -/
theorem quoted_of_blank {w : List Char} (hne : value w ≠ [])
    (hblank : ∀ c ∈ value w, Text.isBlank c = true) : Quoted w := by
  by_contra hbare
  rw [value_bare hbare] at hne hblank
  cases hstrip : Text.strip w with
  | nil =>
    rw [hstrip] at hne
    exact hne rfl
  | cons c r =>
    have hc := Text.not_blank_of_strip hstrip
    have hkept : Text.stripRight (beforeComment (c :: r)) =
        c :: Text.stripRight (beforeComment r) := by
      have hother : ¬ (c = ' ' ∧ r.head? = some '#') := by
        rintro ⟨rfl, -⟩
        cases hc
      rw [beforeComment, if_neg (by simpa using hother)]
      exact Text.stripRight_append_cons hc [] _
    rw [hstrip, hkept] at hblank
    exact Bool.false_ne_true (hc.symm.trans (hblank c List.mem_cons_self))

end Environment

namespace Config

open Environment

variable (c : Config) (env : Environment)

theorem webhookUrl_applyEnvironment :
    (c.applyEnvironment env).moderation.webhookUrl =
      ((env.get? "MODERATION_WEBHOOK_URL").map Text.trim).or c.moderation.webhookUrl := by
  unfold applyEnvironment
  cases env.get? "MODERATION_WEBHOOK_URL" <;> cases env.get? "MODERATION_ENABLED_GROUPS" <;> rfl

theorem enabledGroups_applyEnvironment :
    (c.applyEnvironment env).moderation.enabledGroups =
      (env.get? "MODERATION_ENABLED_GROUPS").getD c.moderation.enabledGroups := by
  unfold applyEnvironment
  cases env.get? "MODERATION_WEBHOOK_URL" <;> cases env.get? "MODERATION_ENABLED_GROUPS" <;> rfl

theorem trustQuota_applyEnvironment :
    (c.applyEnvironment env).quota.trustQuota =
      (env.getInt? "TRUST_QUOTA").getD c.quota.trustQuota := by
  unfold applyEnvironment
  cases env.getInt? "TRUST_QUOTA" <;> rfl

/-- No other setting is touched. -/
theorem applyEnvironment_eq :
    c.applyEnvironment env =
      { c with
        moderation := { c.moderation with
          webhookUrl := (c.applyEnvironment env).moderation.webhookUrl
          enabledGroups := (c.applyEnvironment env).moderation.enabledGroups }
        quota := { c.quota with trustQuota := (c.applyEnvironment env).quota.trustQuota } } := by
  unfold applyEnvironment
  cases env.get? "MODERATION_WEBHOOK_URL" <;> cases env.get? "MODERATION_ENABLED_GROUPS" <;>
    cases env.getInt? "TRUST_QUOTA" <;> rfl

variable {env}

theorem getInt?_of_get? {key v : String} {n : Int} (hv : env.get? key = some v) :
    env.getInt? key = some n ↔ Decimal.Spells (Text.strip v.toList) n ∧ Word.InRange n := by
  rw [getInt?, hv]
  exact Decimal.readSigned?_eq_some_iff

/-- Layering, and what it overrides. A key that the file gives no blank value has the value of the
file, else that of the variable. A key that the file gives a blank one has none, so that what is
looked up is wrong where the variable has a value; a blank value can be given in quotes only. The
address and the groups are overridden exactly if there is a value, and the trusted quota exactly if
that value is a 64-bit integer. -/
theorem applyEnvironment_layered (contents : String) (process : List (String × String)) :
    (∀ key, Shows contents key →
      ∀ u, Layered contents process key u ↔ (ofFile contents process).get? key = u) ∧
    (∀ key, ¬ Shows contents key → (ofFile contents process).get? key = none) ∧
    (∀ key u, Layered contents process key u →
      ((ofFile contents process).get? key = u ↔ Shows contents key ∨ u = none)) ∧
    (∀ l : Line, l.Formed → ∀ key v, entry? l.text = some (key, v) → Text.blank v = true →
      Quoted l.written) ∧
    ∀ c c' : Config, c.applyEnvironment (ofFile contents process) = c' →
      (Shows contents "MODERATION_WEBHOOK_URL" →
        ∀ url, Layered contents process "MODERATION_WEBHOOK_URL" url →
          c'.moderation.webhookUrl = (url.map Text.trim).or c.moderation.webhookUrl) ∧
      (Shows contents "MODERATION_ENABLED_GROUPS" →
        ∀ groups, Layered contents process "MODERATION_ENABLED_GROUPS" groups →
          c'.moderation.enabledGroups = groups.getD c.moderation.enabledGroups) ∧
      (Shows contents "TRUST_QUOTA" → ∀ number, Layered contents process "TRUST_QUOTA" number →
        (∀ v n, number = some v → Decimal.Spells (Text.strip v.toList) n → Word.InRange n →
          c'.quota.trustQuota = n) ∧
        ((∀ v n, number = some v → Decimal.Spells (Text.strip v.toList) n → ¬ Word.InRange n) →
          c'.quota.trustQuota = c.quota.trustQuota)) ∧
      c' = { c with
        moderation := { c.moderation with
          webhookUrl := c'.moderation.webhookUrl
          enabledGroups := c'.moderation.enabledGroups }
        quota := { c.quota with trustQuota := c'.quota.trustQuota } } := by
  refine ⟨fun key hshows u => layered_iff hshows, fun key hhidden => get?_of_not_shows hhidden _,
    fun key u h => get?_eq_iff_of_layered h, fun l hl key v hentry hblank => ?_,
    fun c c' hc' => ?_⟩
  · rw [hl.entry?_text] at hentry
    split at hentry
    · cases hentry
    · rename_i hne
      cases hentry
      refine quoted_of_blank hne ?_
      rw [Text.blank, String.toList_ofList, List.all_eq_true] at hblank
      exact hblank
  · subst hc'
    refine ⟨fun hshows url hurl => ?_, fun hshows groups hgroups => ?_,
      fun hshows number hnumber => ⟨fun v n hv hn hrange => ?_, fun hnone => ?_⟩,
      applyEnvironment_eq c _⟩
    · rw [webhookUrl_applyEnvironment, (layered_iff hshows).mp hurl]
    · rw [enabledGroups_applyEnvironment, (layered_iff hshows).mp hgroups]
    · have hread := (layered_iff hshows).mp hnumber
      rw [trustQuota_applyEnvironment, (getInt?_of_get? (hread.trans hv)).mpr ⟨hn, hrange⟩,
        Option.getD_some]
    · have hread := (layered_iff hshows).mp hnumber
      have hmissing : (ofFile contents process).getInt? "TRUST_QUOTA" = none := by
        cases number with
        | none => rw [getInt?, hread]
        | some v =>
          rw [Option.eq_none_iff_forall_ne_some]
          intro n hn
          obtain ⟨hspells, hrange⟩ := (getInt?_of_get? hread).mp hn
          exact hnone v n rfl hspells hrange
      rw [trustQuota_applyEnvironment, hmissing, Option.getD_none]

/-- A file with two of the settings, and with nothing written for the third. -/
def overridesFile : String :=
  "TRUST_QUOTA= 42 # raised\nMODERATION_ENABLED_GROUPS='default,vip'\nMODERATION_WEBHOOK_URL=\n"

/-- Variables under the file, one of them hidden. -/
def overridesProcess : List (String × String) :=
  [("MODERATION_WEBHOOK_URL", " http://hooks.test/mod "), ("TRUST_QUOTA", "7")]

theorem applyEnvironment_layered_overrides :
    (({} : Config).applyEnvironment (ofFile overridesFile overridesProcess)).moderation.webhookUrl =
        some "http://hooks.test/mod" ∧
      (({} : Config).applyEnvironment
        (ofFile overridesFile overridesProcess)).moderation.enabledGroups = "default,vip" ∧
      (({} : Config).applyEnvironment (ofFile overridesFile overridesProcess)).quota.trustQuota =
        42 := by
  obtain ⟨hlayered, -, -, -, hoverrides⟩ :=
    applyEnvironment_layered overridesFile overridesProcess
  obtain ⟨hurl, hgroups, hnumber, -⟩ := hoverrides {} _ rfl
  have hshown : ∀ key ∈ variableNames, Shows overridesFile key := by decide +kernel
  have hurlShown := hshown "MODERATION_WEBHOOK_URL" (by simp [variableNames])
  have hgroupsShown := hshown "MODERATION_ENABLED_GROUPS" (by simp [variableNames])
  have hnumberShown := hshown "TRUST_QUOTA" (by simp [variableNames])
  refine ⟨?_, ?_, ?_⟩
  · rw [hurl hurlShown _ ((hlayered _ hurlShown (some " http://hooks.test/mod ")).mpr
      (by decide +kernel))]
    decide +kernel
  · rw [hgroups hgroupsShown _ ((hlayered _ hgroupsShown (some "default,vip")).mpr
      (by decide +kernel)), Option.getD_some]
  · have hfound := (hlayered _ hnumberShown (some "42")).mpr (by decide +kernel)
    exact (hnumber hnumberShown _ hfound).1 "42" 42 rfl
      (Decimal.readInt?_eq_some_iff.mp (by decide +kernel)) (by decide)

/-- A blank value in quotes hides a variable, and a word in place of a number overrides nothing. -/
theorem layered_hidden :
    Layered "K=\"  \"\n" [("K", "v")] "K" (some "v") ∧
      (ofFile "K=\"  \"\n" [("K", "v")]).get? "K" = none ∧
      Layered "TRUST_QUOTA=seven\n" [] "TRUST_QUOTA" (some "seven") ∧
      ∀ c : Config, (c.applyEnvironment (ofFile "TRUST_QUOTA=seven\n" [])).quota.trustQuota =
        c.quota.trustQuota := by
  have hblank : ∀ w, Gives (Text.pieces '\n' "K=\"  \"\n".toList) "K" w → Text.blank w = true := by
    intro w hw
    have hfound : (entries (Text.pieces '\n' "K=\"  \"\n".toList)).find? (fun e => e.1 == "K") =
        some ("K", "  ") := by decide +kernel
    rw [find?_entries.mpr hw] at hfound
    cases hfound
    decide +kernel
  refine ⟨.ofProcess hblank rfl (by decide +kernel), by decide +kernel,
    (layered_iff (by decide +kernel)).mpr (by decide +kernel), fun c => ?_⟩
  have hnone : (ofFile "TRUST_QUOTA=seven\n" []).getInt? "TRUST_QUOTA" = none := by decide +kernel
  rw [trustQuota_applyEnvironment, hnone, Option.getD_none]

end Config

end Turnstile
