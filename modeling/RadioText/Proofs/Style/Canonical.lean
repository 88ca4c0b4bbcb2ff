import Mathlib.Data.List.Chain
import Mathlib.Data.Set.Function
import RadioText.Proofs.Style.Tokens

/-! Which lists of tokens a style can have. Each token must be spelled as it would be read, and no
token may join the one behind it: text joins text, and a backslash takes a control character. These
lists and the styles correspond one to one, by reading in one direction and by writing in the
other. -/
namespace RadioText.Token

def controls : Text := ['{', '}', '[', ']', '|']

def structural : List Token := [fieldOpen, fieldClose, groupOpen, groupClose, pipe]

def WellSpelled : Token → Prop
  | text t => t ≠ [] ∧ ∀ c ∈ t, c ∉ controls ∧ c ≠ '\\'
  | escaped c => c ∈ controls
  | _ => True

def Parted : Token → Token → Prop
  | text _, text _ => False
  | backslash, t => t ∉ structural
  | _, _ => True

structure Canonical (ts : List Token) : Prop where
  spelled : ∀ t ∈ ts, t.WellSpelled
  parted : ts.IsChain Parted

theorem control?_isSome_iff (c : Char) : (control? c).isSome = true ↔ c ∈ controls := by
  unfold control?
  split <;> simp_all [controls]

theorem controlChar?_eq_none_iff (t : Token) : t.controlChar? = none ↔ t ∉ structural := by
  cases t <;> simp [controlChar?, structural]

theorem mem_controls {t : Token} {c : Char} (h : t.controlChar? = some c) : c ∈ controls := by
  cases t <;> cases h <;> decide

theorem parted_text_iff (t : Text) (u : Token) : (text t).Parted u ↔ ∀ r, u ≠ text r := by
  cases u <;> simp [Parted]

theorem isPlain_iff_not_mem (c : Char) : isPlain c = true ↔ c ∉ controls ∧ c ≠ '\\' := by
  rw [isPlain_iff, ← control?_isSome_iff, Option.not_isSome_iff_eq_none]

namespace Canonical

theorem nil : Canonical [] := ⟨by simp, .nil⟩

theorem cons_iff (t : Token) (ts : List Token) :
    Canonical (t :: ts) ↔ t.WellSpelled ∧ (∀ u ∈ ts.head?, t.Parted u) ∧ Canonical ts := by
  constructor
  · rintro ⟨hspelled, hparted⟩
    obtain ⟨ht, hts⟩ := List.forall_mem_cons.1 hspelled
    obtain ⟨hhead, hrest⟩ := List.isChain_cons.1 hparted
    exact ⟨ht, hhead, hts, hrest⟩
  · rintro ⟨ht, hhead, hts, hrest⟩
    exact ⟨List.forall_mem_cons.2 ⟨ht, hts⟩, List.isChain_cons.2 ⟨hhead, hrest⟩⟩

theorem of_structural {t : Token} {c : Char} {ts : List Token} (h : Canonical ts)
    (ht : t.controlChar? = some c) : Canonical (t :: ts) := by
  rw [cons_iff]
  cases t with
  | fieldOpen | fieldClose | groupOpen | groupClose | pipe =>
    exact ⟨trivial, fun _ _ => trivial, h⟩
  | escaped | backslash | text => cases ht

end Canonical

theorem Pushed.canonical {c : Char} {ts us : List Token} (h : Pushed c ts us)
    (hts : Canonical ts) : Canonical us := by
  cases h with
  | control hc => exact hts.of_structural (controlChar?_of_control? hc)
  | escape _ ht =>
    obtain ⟨_, _, hrest⟩ := (Canonical.cons_iff _ _).1 hts
    exact (Canonical.cons_iff _ _).2 ⟨mem_controls ht, fun _ _ => trivial, hrest⟩
  | backslash _ hplain =>
    refine (Canonical.cons_iff _ _).2 ⟨trivial, fun t ht => ?_, hts⟩
    exact (controlChar?_eq_none_iff t).1 (hplain t ht)
  | @joined r ts hc =>
    obtain ⟨⟨_, hr⟩, hnext, hrest⟩ := (Canonical.cons_iff _ ts).1 hts
    have hspelled : ∀ d ∈ c :: r, d ∉ controls ∧ d ≠ '\\' :=
      List.forall_mem_cons.2 ⟨(isPlain_iff_not_mem c).1 hc, hr⟩
    refine (Canonical.cons_iff _ ts).2 ⟨⟨by simp, hspelled⟩, fun u hu => ?_, hrest⟩
    exact (parted_text_iff _ u).2 ((parted_text_iff r u).1 (hnext u hu))
  | started hc hno =>
    have hspelled := (isPlain_iff_not_mem c).1 hc
    refine (Canonical.cons_iff _ ts).2 ⟨⟨by simp, by simpa using hspelled⟩, fun u hu => ?_, hts⟩
    rw [parted_text_iff]
    rintro r rfl
    obtain ⟨rest, heq⟩ := List.head?_eq_some_iff.1 hu
    exact hno r rest heq

theorem canonical_ofStyle (s : Text) : Canonical (ofStyle s) := by
  induction s with
  | nil => exact .nil
  | cons c s ih => exact (pushed_ofStyle c s).canonical ih

/-- A token in front of a style is read as itself, unless it joins the first token there. -/
theorem ofStyle_display_append {t : Token} (ht : t.WellSpelled) {s : Text}
    (hs : ∀ u ∈ (ofStyle s).head?, t.Parted u) : ofStyle (t.display ++ s) = t :: ofStyle s := by
  cases t with
  | fieldOpen | fieldClose | groupOpen | groupClose | pipe => rfl
  | escaped c =>
    obtain ⟨t, hc⟩ := Option.isSome_iff_exists.1 ((control?_isSome_iff c).2 ht)
    change ofStyle ('\\' :: c :: s) = _
    rw [ofStyle_cons, ofStyle_cons, push_control hc,
      push_backslash_structural (controlChar?_of_control? hc)]
  | backslash =>
    change push '\\' (ofStyle s) = _
    cases hts : ofStyle s with
    | nil => rfl
    | cons u ts =>
      have hu : u ∉ structural := hs u (by simp [hts])
      exact push_backslash_plain ((controlChar?_eq_none_iff u).2 hu) ts
  | text t =>
    have hplain : ∀ c ∈ t, isPlain c = true := fun c hc => (isPlain_iff_not_mem c).2 (ht.2 c hc)
    refine ofStyle_plain ht.1 hplain fun r rest hts => ?_
    exact hs (text r) (by simp [hts])

theorem ofStyle_flatMap_display {ts : List Token} (h : Canonical ts) :
    ofStyle (ts.flatMap display) = ts := by
  induction ts with
  | nil => rfl
  | cons t ts ih =>
    obtain ⟨ht, hnext, hts⟩ := (Canonical.cons_iff t ts).1 h
    have hrest := ih hts
    rw [List.flatMap_cons, ofStyle_display_append ht (by rwa [hrest]), hrest]

/-- Reading gives each canonical list of tokens for exactly one style, namely the tokens written one
after the other; a list that is not canonical is read as another one. -/
theorem bijOn_ofStyle :
    Set.BijOn ofStyle Set.univ {ts | Canonical ts} ∧
      ∀ ts, Canonical ts ↔ ofStyle (ts.flatMap display) = ts := by
  constructor
  · refine ⟨fun s _ => canonical_ofStyle s, ?_, fun ts h => ⟨_, trivial, ofStyle_flatMap_display h⟩⟩
    intro a _ b _ h
    rw [← flatMap_display_ofStyle a, h, flatMap_display_ofStyle]
  · intro ts
    refine ⟨ofStyle_flatMap_display, fun h => ?_⟩
    rw [← h]
    exact canonical_ofStyle _

end RadioText.Token
