import SchemaInterfaces.Proofs.Malformed
import SchemaInterfaces.Proofs.SettingsText

/-! Settings written and read again, in any environment. Reading fills in placeholders wherever they
stand and writing protects none, so that what is read can differ from what was written, but only
where a string of the settings holds a placeholder. -/
namespace SchemaInterfaces
open Toml

namespace Placeholders

variable {env : Environment} {n s v : List Char} {c : Char} {ns : List (List Char)}
  {value : List Char → Option (List Char)}

/-- Variables that are not set, or stand for their own placeholders, change nothing. -/
theorem substitute_eq_self {s : String}
    (h : ∀ n ∈ names s.toList, ∀ v, values env n = some v → v = mark n) : substitute env s = s := by
  have hfill : ∀ n ∈ names s.toList, fill env s.toList n = s.toList := by
    intro n hn
    have hself : (values env n).getD (mark n) = mark n := by
      cases hv : values env n with
      | none => rfl
      | some v => exact h n hn v hv
    have hvariable := isVariable_of_mem_names hn
    rw [fill_eq hvariable]
    exact (replaceAll_eq_self_iff hvariable).mpr (.inl hself)
  have hfold : ∀ ns : List (List Char), (∀ n ∈ ns, n ∈ names s.toList) →
      ns.foldl (fill env) s.toList = s.toList := by
    intro ns hns
    induction ns with
    | nil => rfl
    | cons n ns ih =>
      rw [List.forall_mem_cons] at hns
      rw [List.foldl_cons, hfill n hns.1, ih hns.2]
  rw [substitute, hfold _ fun _ h => h, String.ofList_toList]

/-- Only characters of placeholders are replaced. -/
theorem mem_filled (hpart : isNamePart c = false) (hmark : c ∉ ['$', '\x7b', '\x7d'])
    (h : c ∈ s) : c ∈ filled value s := by
  induction s using text_induction with
  | nil => simp at h
  | plain d s hfirst ih =>
    rw [filled_cons hfirst]
    exact List.mem_cons.mpr ((List.mem_cons.mp h).imp_right ih)
  | placeholder name s hname ih =>
    rw [filled_mark_append hname, List.mem_append]
    refine .inr (ih ((List.mem_append.mp h).resolve_left ?_))
    have hin := hname.notMem hpart
    simp_all [mark]

/-- The environment in which one variable is set. -/
def only (n v : List Char) : Environment :=
  fun k => if k = String.ofList n then some (String.ofList v) else none

theorem fill_only (n v s : List Char) : fill (only n v) s n = replaceAll (mark n) v s := by
  simp [fill, only]

theorem fill_only_of_ne {k : List Char} (h : k ≠ n) (v s : List Char) :
    fill (only n v) s k = s := by
  simp [fill, only, h, String.ofList_inj]

/-- What the value of a variable brings in stays in the text. -/
theorem mem_substitute_only {s : String} (hpart : isNamePart c = false)
    (hmark : c ∉ ['$', '\x7b', '\x7d']) (hc : c ∈ v) (hn : n ∈ names s.toList) :
    c ∈ (substitute (only n v) s).toList := by
  have hvariable := isVariable_of_mem_names hn
  have hfold : ∀ (ns : List (List Char)) (s : List Char), c ∈ s ∨ (n ∈ ns ∧ n ∈ names s) →
      c ∈ ns.foldl (fill (only n v)) s := by
    intro ns
    induction ns with
    | nil => simp
    | cons k ns ih =>
      intro s h
      refine ih _ ?_
      by_cases hk : k = n
      · subst hk
        rw [fill_only, replaceAll_eq hvariable]
        refine .inl ?_
        rcases h with h | ⟨-, h⟩
        · exact mem_filled hpart hmark h
        · refine List.mem_flatMap.mpr ⟨.placeholder k, mem_names_iff.mp h, ?_⟩
          rwa [Piece.filled, single_self]
      · rw [fill_only_of_ne hk]
        exact h.imp_right (And.imp_left fun h => (List.mem_cons.mp h).resolve_left (Ne.symm hk))
  rw [substitute, String.toList_ofList]
  exact hfold _ _ (.inr ⟨hn, hn⟩)

end Placeholders

namespace Settings
open Placeholders

theorem names_render (s : Settings) :
    names (render s).toList = s.strings.flatMap fun x => names x.toList :=
  (carries_render s).names_eq

/-- A placeholder in the settings lets a variable make the text one that cannot be read. -/
theorem exists_ofText_render_ne {s : Settings} {x : String} (hx : x ∈ s.strings) {n : List Char}
    (hn : n ∈ names x.toList) : ∃ env, ofText env (render s) ≠ .ok s := by
  refine ⟨only n ['\x01'], ?_⟩
  have hnames : n ∈ names (render s).toList := by
    rw [names_render]
    exact List.mem_flatMap.mpr ⟨x, hx, hn⟩
  have hcontrol := mem_substitute_only (c := '\x01') (by decide) (by decide)
    (List.mem_singleton_self _) hnames
  have hstatements := statements?_of_control (by decide) (by decide) hcontrol
  have hdocument : Document.ofText? (substitute (only n ['\x01']) (render s)) = none := by
    rw [Document.ofText?, hstatements]
    rfl
  rw [ofText, Decoder.ofText, hdocument]
  intro h
  cases h

/-- Written settings are read as what they were in every environment in which the variables that
their strings have placeholders of are not set, or stand for these placeholders; and in every
environment at all exactly if their strings have no placeholder. -/
theorem ofText_render_iff (s : Settings) :
    (∀ env : Environment,
      (∀ x ∈ s.strings, ∀ n ∈ names x.toList, ∀ v, values env n = some v → v = mark n) →
        ofText env (render s) = .ok s) ∧
    ((∀ env, ofText env (render s) = .ok s) ↔ ∀ x ∈ s.strings, names x.toList = []) := by
  have hkept : ∀ env : Environment,
      (∀ x ∈ s.strings, ∀ n ∈ names x.toList, ∀ v, values env n = some v → v = mark n) →
        ofText env (render s) = .ok s := by
    intro env h
    have hsame : substitute env (render s) = render s := by
      refine substitute_eq_self fun n hn => ?_
      rw [names_render, List.mem_flatMap] at hn
      obtain ⟨x, hx, hn⟩ := hn
      exact h x hx n hn
    rw [ofText, hsame]
    exact ofText_render s
  refine ⟨hkept, fun h x hx => ?_, fun h env => hkept env fun x hx n hn => ?_⟩
  · rw [List.eq_nil_iff_forall_not_mem]
    intro n hn
    obtain ⟨env, hne⟩ := exists_ofText_render_ne hx hn
    exact hne (h env)
  · rw [h x hx] at hn
    simp at hn

/-- A placeholder of a variable that is not set is kept, whatever else is set. -/
theorem ofText_render_unset :
    let env : Environment := fun name => if name = "B" then some "x" else none
    let s : Settings := { project := { name := "$\x7bA\x7d" } }
    ofText env (render s) = .ok s := by
  intro env s
  have hunset : ∀ x ∈ s.strings, ∀ n ∈ names x.toList, values env n = none := by decide +kernel
  refine (ofText_render_iff s).1 env fun x hx n hn v hv => ?_
  rw [hunset x hx n hn] at hv
  contradiction

/-- A project that is named like a placeholder is renamed by the variable. -/
theorem ofText_render_renamed :
    let env : Environment := fun name => if name = "A" then some "x" else none
    let s : Settings := { project := { name := "$\x7bA\x7d" } }
    ofText env (render s) = .ok { project := { name := "x" } } ∧ ofText env (render s) ≠ .ok s := by
  intro env s
  have hfilled : substitute env (render s) = render { project := { name := "x" } } := by
    rw [substitute, render, String.toList_ofList, render, String.ofList_inj]
    decide +kernel
  have hread : ofText env (render s) = .ok { project := { name := "x" } } := by
    rw [ofText, hfilled, ofText_render]
  refine ⟨hread, ?_⟩
  rw [hread]
  decide

end Settings
end SchemaInterfaces
