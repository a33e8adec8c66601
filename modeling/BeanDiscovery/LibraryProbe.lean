import BeanDiscovery.TypeRegistry

/-! # Probes for optional libraries

A library is taken to be there when one of its types can be loaded. A probe asks once and keeps the
answer, so what is registered later changes nothing. The main statement is that a probe never looks
its type up twice. -/
namespace BeanDiscovery

structure LibraryProbe where
  sentinel : ClassName
  /-- The answer to the first question. -/
  answer : Option Bool := none
  lookups : Nat := 0
  deriving DecidableEq, Inhabited

namespace LibraryProbe

/-- Whether the library is there, and the probe that knows the answer. -/
def ask (probe : LibraryProbe) (registry : TypeRegistry) : Bool × LibraryProbe :=
  match probe.answer with
  | some answer => (answer, probe)
  | none =>
    let answer := registry.isPresent probe.sentinel
    (answer, { probe with answer := some answer, lookups := probe.lookups + 1 })

/-- Puts the question to the probe of a sentinel among several, with a fresh one if there is none. -/
def askAmong (registry : TypeRegistry) (sentinel : ClassName) :
    List LibraryProbe → Bool × List LibraryProbe
  | [] =>
    let (answer, probe) := LibraryProbe.ask { sentinel } registry
    (answer, [probe])
  | probe :: probes =>
    if probe.sentinel = sentinel then
      let (answer, probe) := probe.ask registry
      (answer, probe :: probes)
    else
      let (answer, probes) := askAmong registry sentinel probes
      (answer, probe :: probes)

@[simp] theorem sentinel_ask (probe : LibraryProbe) (registry : TypeRegistry) :
    (probe.ask registry).2.sentinel = probe.sentinel := by
  unfold ask
  split <;> rfl

/-- A probe that has been asked is settled. -/
@[simp] theorem answer_ask (probe : LibraryProbe) (registry : TypeRegistry) :
    (probe.ask registry).2.answer = some (probe.ask registry).1 := by
  unfold ask
  split
  next h => exact h
  next => rfl

theorem ask_of_answer {probe : LibraryProbe} {answer : Bool} (h : probe.answer = some answer)
    (registry : TypeRegistry) : probe.ask registry = (answer, probe) := by
  simp [ask, h]

/-- An unsettled probe has looked nothing up and a settled one has looked up once. -/
def Thrifty (probe : LibraryProbe) : Prop := probe.lookups = if probe.answer.isSome then 1 else 0

theorem thrifty_fresh (sentinel : ClassName) : Thrifty { sentinel } := rfl

theorem Thrifty.ask {probe : LibraryProbe} (h : probe.Thrifty) (registry : TypeRegistry) :
    (probe.ask registry).2.Thrifty := by
  cases ha : probe.answer with
  | some answer => rwa [ask_of_answer ha]
  | none => simpa [Thrifty, LibraryProbe.ask, ha] using h

end LibraryProbe
end BeanDiscovery
