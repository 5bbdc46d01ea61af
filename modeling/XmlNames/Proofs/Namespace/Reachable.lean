import XmlNames.Proofs.Namespace.Runs

set_option autoImplicit false

namespace XmlNames

namespace Script

-- In a state that a run comes to, in what it shows from there on, or in an operand that can be built there.
def Reachable (n : Namespace) : Prop :=
  ∃ whole m script, Reaches .start whole m script ∧
    (n ∈ m.namespaces ∨ n ∈ (run m script).namespaces ∨
      ∃ (operand : ValueExpr) (value : Value),
        (operand.build m.bindings).outcome.value = .ok value ∧ n ∈ value.namespaces)

theorem Reachable.wellFormed {n : Namespace} (reachable : Reachable n) : n.WellFormed := by
  obtain ⟨whole, m, script, reached, place⟩ := reachable
  have sound := sound_of_reaches reached sound_start
  rcases place with held | shown | ⟨operand, value, built, held⟩
  · exact sound n held
  · exact sound_run m script sound n shown
  · exact (operand.sound_build (Machine.allWellFormed_iff.1 sound).2.1).result value built n held

def prefixOperand (n : Namespace) : ValueExpr :=
  match n.nsPrefix with
  | none => .undefined
  | some text => .text text

end Script

theorem fromPrefixAndUri_fields {n : Namespace} (good : n.WellFormed) :
    Namespace.fromPrefixAndUri (n.property "prefix") (n.property "uri") = .ok n := by
  rw [← Namespace.ofPrefixAndUri_fields] at good
  obtain ⟨uri, nsPrefix⟩ := n
  cases nsPrefix <;> exact good

namespace Script

def making (n : Namespace) : Script :=
  .step (.give (.operand (.ofPrefixAndUri (prefixOperand n) (.text n.uri))) none) .done

theorem reachable_of_wellFormed {n : Namespace} (good : n.WellFormed) : Reachable n := by
  have made := Namespace.ofPrefixAndUri_fields.2 good
  have built : NamespaceExpr.build [] (.ofPrefixAndUri (prefixOperand n) (.text n.uri)) = pure n := by
    obtain ⟨uri, nsPrefix⟩ := n
    cases nsPrefix <;>
      simp_all [prefixOperand, NamespaceExpr.build, ValueExpr.build, Namespace.fromPrefixAndUri,
        Building.of, Value.isAbsent, Value.toText]
  -- One step is enough: its answer is the namespace.
  refine ⟨making n, .start, making n, .whole, .inr (.inl ?_)⟩
  have performs : ((Action.give (.operand (.ofPrefixAndUri (prefixOperand n) (.text n.uri))) none).perform
      .start).outcome.value = .ok (.ns n, .start) := by
    simp [Action.perform, Source.give, Machine.start, built, Machine.bind]
  rw [making, run_step performs]
  simp [Run.namespaces, Run.after, run, Item.namespaces, Answer.namespaces, Trace.namespaces]

end Script

-- Well-formed is all that can be said of a namespace that came from somewhere.
theorem reachable_iff_wellFormed (n : Namespace) :
    (Script.Reachable n ↔ n.WellFormed) ∧
      (n.WellFormed ↔ ∃ candidate uri : Value, Namespace.fromPrefixAndUri candidate uri = .ok n) := by
  refine ⟨⟨Script.Reachable.wellFormed, Script.reachable_of_wellFormed⟩, ?_, ?_⟩
  · exact fun good => ⟨_, _, fromPrefixAndUri_fields good⟩
  · rintro ⟨candidate, uri, made⟩
    exact Namespace.ofPrefixAndUri_wellFormed made

end XmlNames
