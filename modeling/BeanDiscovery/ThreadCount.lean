/-! # How many threads scan

A machine with c processors scans with min 4 (3/4 c) + 5/4 c threads, rounded up, at least two. The
parts are computed in numbers of 53 significant bits, a half going to the even neighbour, and the
count is at most the largest word. The main statement is that numbers of 53 bits are not rounded. -/
namespace BeanDiscovery.ThreadCount

/-- The nearest number with 53 significant bits. -/
def rounded (n : Nat) : Nat :=
  if n < 1 <<< 53 then n
  else
    let unit := 1 <<< (n.log2 - 52)
    let below := n / unit
    let rest := n % unit
    if unit < 2 * rest ∨ (2 * rest = unit ∧ below % 2 = 1) then (below + 1) * unit
    else below * unit

theorem rounded_of_lt {n : Nat} (h : n < 1 <<< 53) : rounded n = n := by
  simp only [rounded, h, if_true]

/-- Four times the sum before it is rounded up, for a machine with so many processors. -/
def quarters (processors : Nat) : Nat :=
  let c := rounded processors
  rounded (min (rounded (3 * c)) 16 + rounded (5 * c))

def forProcessors (processors : Nat) : Nat :=
  max 2 (min ((quarters processors + 3) / 4) (UInt64.size - 1))

/-- Up to a thousand million million processors nothing is rounded on the way. -/
theorem quarters_eq {processors : Nat} (h : processors < 1000000000000000) :
    quarters processors = min (3 * processors) 16 + 5 * processors := by
  have h₁ : rounded processors = processors := rounded_of_lt (by omega)
  have h₂ : rounded (3 * processors) = 3 * processors := rounded_of_lt (by omega)
  have h₃ : rounded (5 * processors) = 5 * processors := rounded_of_lt (by omega)
  rw [quarters, h₁, h₂, h₃, rounded_of_lt (by omega)]

end BeanDiscovery.ThreadCount
