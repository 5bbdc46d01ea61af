import Mathlib.Data.List.Forall2
import XmlNames.Construction

set_option autoImplicit false

namespace XmlNames

inductive QName.Redecorated : QName → QName → Prop
  | anyNamespace (localName : String) : Redecorated (.anyNamespace localName) (.anyNamespace localName)
  | inNamespace {n m : Namespace} (same : n.uri = m.uri) (localName : String) :
    Redecorated (.inNamespace n localName) (.inNamespace m localName)

inductive Value.Redecorated : Value → Value → Prop
  | same (value : Value) : Redecorated value value
  | ns {n m : Namespace} (same : n.uri = m.uri) : Redecorated (.ns n) (.ns m)
  | name {q r : QName} (same : q.Redecorated r) : Redecorated (.ofQName q) (.ofQName r)

namespace QName.Redecorated

variable {q r : QName}

theorem render (same : q.Redecorated r) : q.render = r.render := by
  cases same with
  | anyNamespace localName => rfl
  | inNamespace uris localName => simp [QName.render, QName.inNamespace, Namespace.isPublic, uris]

theorem uriText (same : q.Redecorated r) : q.uriText = r.uriText := by
  cases same with
  | anyNamespace localName => rfl
  | inNamespace uris localName => exact uris

theorem beq (same : q.Redecorated r) : (q == r) = true := by
  cases same with
  | anyNamespace localName => exact BEq.refl _
  | inNamespace uris localName => exact beq_iff.2 ⟨rfl, congrArg some uris⟩

theorem beq_congr {s t : QName} (same : q.Redecorated r) (others : s.Redecorated t) : (q == s) = (r == t) := by
  rw [BEq.congr_left same.beq, BEq.congr_right others.beq]

end QName.Redecorated

namespace Value.Redecorated

variable {a b : Value}

theorem toText (same : a.Redecorated b) : a.toText = b.toText := by
  cases same with
  | same value => rfl
  | ns uris => exact uris
  | name names => exact names.render

theorem uriText (same : a.Redecorated b) : a.uriText = b.uriText := by
  cases same with
  | same value => rfl
  | ns uris => exact uris
  | name names => exact names.uriText

theorem isAbsent (same : a.Redecorated b) : a.isAbsent = b.isAbsent := by
  cases same <;> rfl

theorem fromUri (same : a.Redecorated b) : Namespace.fromUri a = Namespace.fromUri b :=
  Namespace.fromUri_congr same.toText

theorem fromPrefixAndUri {candidate other : Value} (candidates : candidate.Redecorated other)
    (same : a.Redecorated b) : Namespace.fromPrefixAndUri candidate a = Namespace.fromPrefixAndUri other b :=
  Namespace.fromPrefixAndUri_congr candidates.isAbsent candidates.toText same.toText

-- Only a namespace that stands alone keeps its prefix.
theorem ofSingle (same : a.Redecorated b) (other : ∀ n, a ≠ .ns n) :
    Namespace.ofSingle a = Namespace.ofSingle b := by
  cases same with
  | same value => rfl
  | ns uris => exact absurd rfl (other _)
  | name names =>
    exact congrArg Namespace.ofUri names.uriText

theorem exists_ns {n : Namespace} (same : (Value.ns n).Redecorated b) : ∃ m, b = .ns m ∧ n.uri = m.uri := by
  generalize held : Value.ns n = a at same
  cases same with
  | same value => exact ⟨n, held.symm, rfl⟩
  | ns uris =>
    cases held
    exact ⟨_, rfl, uris⟩
  | name names => cases held

end Value.Redecorated

namespace Namespace

-- The value that an argument list comes down to, where it comes down to one.
def effectiveSingle : List Value → Option Value
  | [] => none
  | [value] => some value
  | first :: second :: _ => if first.isAbsent then some second else none

theorem ofArguments_of_effectiveSingle {args : List Value} {value : Value}
    (single : effectiveSingle args = some value) : ofArguments args = pure (ofSingle value) := by
  match args, single with
  | [_], rfl => rfl
  | first :: second :: rest, single =>
    simp only [effectiveSingle, Option.ite_none_right_eq_some, Option.some.injEq] at single
    obtain ⟨absent, rfl⟩ := single
    simp [ofArguments, absent]

variable {args others : List Value}

theorem effectiveSingle_redecorated (same : List.Forall₂ Value.Redecorated args others) :
    Option.Rel Value.Redecorated (effectiveSingle args) (effectiveSingle others) := by
  match args, others, same with
  | [], [], .nil => exact .none
  | [_], [_], .cons first .nil => exact .some first
  | _ :: _ :: _, _ :: _ :: _, .cons first (.cons second _) =>
    simp only [effectiveSingle, first.isAbsent]
    split
    · exact .some second
    · exact .none

theorem ofArguments_redecorated (same : List.Forall₂ Value.Redecorated args others)
    (single : ∀ n, effectiveSingle args ≠ some (.ns n)) : ofArguments args = ofArguments others := by
  match args, others, same with
  | [], [], .nil => rfl
  | [_], [_], .cons first .nil =>
    rw [ofArguments, ofArguments, first.ofSingle fun n held => single n (congrArg some held)]
  | candidate :: uri :: _, _ :: _ :: _, .cons first (.cons second _) =>
    apply ofArguments_congr first.isAbsent
    · intro absent
      simp only [effectiveSingle, absent, reduceIte] at single
      exact second.ofSingle fun n held => single n (congrArg some held)
    · intro _
      exact ofPair_congr first.toText second.uriText

theorem construct_redecorated (same : List.Forall₂ Value.Redecorated args others)
    (single : ∀ n, effectiveSingle args ≠ some (.ns n)) : construct args = construct others :=
  construct_congr (ofArguments_redecorated same single) same.length_eq

theorem value_construct_single {n : Namespace} (single : effectiveSingle args = some (.ns n)) :
    (construct args).value = n := by
  rw [construct, ofArguments_of_effectiveSingle single]
  rfl

theorem effectiveSingle_ns (same : List.Forall₂ Value.Redecorated args others) {n : Namespace}
    (single : effectiveSingle args = some (.ns n)) :
    ∃ m, effectiveSingle others = some (.ns m) ∧ n.uri = m.uri := by
  have related := effectiveSingle_redecorated same
  rw [single] at related
  cases found : effectiveSingle others with
  | none => simp [found] at related
  | some value =>
    rw [found, Option.rel_some_some] at related
    obtain ⟨m, rfl, uris⟩ := related.exists_ns
    exact ⟨m, rfl, uris⟩

theorem value_construct_beq (same : List.Forall₂ Value.Redecorated args others) :
    ((construct args).value == (construct others).value) = true := by
  by_cases single : ∃ n, effectiveSingle args = some (.ns n)
  · obtain ⟨n, single⟩ := single
    obtain ⟨m, single', uris⟩ := effectiveSingle_ns same single
    rw [value_construct_single single, value_construct_single single']
    exact beq_iff.2 uris
  · rw [construct_redecorated same fun n held => single ⟨n, held⟩]
    exact BEq.refl _

theorem prefix_is_decoration :
    (∀ args others : List Value, List.Forall₂ Value.Redecorated args others →
      ((construct args).value == (construct others).value) = true ∧
      ((∀ n, effectiveSingle args ≠ some (.ns n)) → construct args = construct others) ∧
      ∀ n, effectiveSingle args = some (.ns n) → ∃ m, effectiveSingle others = some (.ns m) ∧
        (construct args).value = n ∧ (construct others).value = m) ∧
    (∀ a b : Value, a.Redecorated b → a.toText = b.toText ∧ fromUri a = fromUri b ∧
      ∀ candidate other : Value, candidate.Redecorated other →
        fromPrefixAndUri candidate a = fromPrefixAndUri other b) ∧
    ∀ q r : QName, q.Redecorated r → q.render = r.render ∧ toString q = toString r ∧
      ∀ s t : QName, s.Redecorated t → (q == s) = (r == t) := by
  refine ⟨fun args others same => ⟨value_construct_beq same, construct_redecorated same, ?_⟩,
    fun a b same => ⟨same.toText, same.fromUri, fun _ _ candidates => candidates.fromPrefixAndUri same⟩,
    fun q r same => ⟨same.render, same.render, fun _ _ others => same.beq_congr others⟩⟩
  intro n single
  obtain ⟨m, single', -⟩ := effectiveSingle_ns same single
  exact ⟨m, single', value_construct_single single, value_construct_single single'⟩

theorem prefix_is_decoration_of_arguments :
    let n : Namespace := ⟨"u", some "p"⟩
    let m : Namespace := ⟨"u", none⟩
    let q : QName := .inNamespace ⟨"", none⟩ "pre"
    let r : QName := .inNamespace .publicNs "pre"
    (List.Forall₂ Value.Redecorated [.ofQName q, .ns n] [.ofQName r, .ns m] ∧
      (∀ k, effectiveSingle [.ofQName q, .ns n] ≠ some (.ns k)) ∧
      List.Forall₂ Value.Redecorated [.null, .ns n] [.null, .ns m] ∧
      effectiveSingle [.null, .ns n] = some (.ns n)) ∧
    construct [.ofQName q, .ns n] = construct [.ofQName r, .ns m] ∧
    (construct [.null, .ns n]).value = n ∧ (construct [.null, .ns m]).value = m ∧
    fromPrefixAndUri (.ofQName q) (.ns n) = fromPrefixAndUri (.ofQName r) (.ns m) ∧
    (q == q) = (r == q) := by
  intro n m q r
  have values : (Value.ns n).Redecorated (.ns m) := .ns rfl
  have uris : (⟨"", none⟩ : Namespace).uri = Namespace.publicNs.uri := rfl
  have names : q.Redecorated r := .inNamespace uris "pre"
  have pair : List.Forall₂ Value.Redecorated [.ofQName q, .ns n] [.ofQName r, .ns m] :=
    .cons (.name names) (.cons values .nil)
  have other : ∀ k, effectiveSingle [.ofQName q, .ns n] ≠ some (.ns k) := nofun
  have alone : List.Forall₂ Value.Redecorated [.null, .ns n] [.null, .ns m] :=
    .cons (.same _) (.cons values .nil)
  obtain ⟨lists, operands, qnames⟩ := prefix_is_decoration
  obtain ⟨k, single, made, made'⟩ := (lists _ _ alone).2.2 n rfl
  cases single
  exact ⟨⟨pair, other, alone, rfl⟩, (lists _ _ pair).2.1 other, made, made',
    (operands _ _ values).2.2 _ _ (.name names), (qnames q r names).2.2 q q (.inNamespace rfl "pre")⟩

end Namespace

end XmlNames
