import TrustRoot.Power

/-!
# Automata of entropy codes

A row of symbols is told by an automaton whose states stand for symbols. The way from the state of a
symbol to the state of the next symbol is told by bits, and a symbol with many states takes few
bits. An automaton has `2 ^ width` states, of which each symbol has its share. Every state can be
reached from exactly one state of each symbol.
-/

namespace TrustRoot.Zstandard

structure State where
  symbol : Nat
  /-- The first of the states that can come next. -/
  base : Nat
  width : Nat
  deriving DecidableEq, Repr

def State.leadsTo (state : State) (next : Nat) : Bool :=
  state.base ≤ next && next < state.base + 2 ^ state.width

structure Automaton where
  width : Nat
  states : Array State
  deriving Repr

namespace Automaton

/-- The places of states in the order in which they are given to symbols, where the last `rare`
places are left out. -/
def places (width rare : Nat) : List Nat :=
  let size := 2 ^ width
  let step := size / 2 + size / 8 + 3
  ((List.range size).map fun count => count * step % size).filter (· < size - rare)

/-- The symbols of all states by place, from the share of each symbol. A share of 0 is too small for
a place among the others: the symbol has one of the last places. -/
def symbols (width : Nat) (shares : List Nat) : List Nat :=
  let rare := (shares.zipIdx.filter fun (share, _) => share == 0).map Prod.snd
  let common := shares.zipIdx.flatMap fun (share, symbol) => List.replicate share symbol
  let placed := (places width rare.length).zip common
  ((List.range (2 ^ width - rare.length)).map fun place => (placed.lookup place).getD 0) ++
    rare.reverse

/-- The states of these symbols, where `earlier` are the symbols before them, latest first. The states
of a symbol are numbered from its share on. A state takes as many bits as its number has to be doubled
to come to the number of all states or more, and leads to the states from there on. -/
def statesAfter (width : Nat) (shares : Array Nat) (earlier : List Nat) : List Nat → List State
  | [] => []
  | symbol :: rest =>
    let number := max (shares.getD symbol 0) 1 + earlier.count symbol
    let bits := width - number.log2
    ⟨symbol, number * 2 ^ bits - 2 ^ width, bits⟩ ::
      statesAfter width shares (symbol :: earlier) rest

/-- The automaton in which symbols have these shares of the states. -/
def ofShares (width : Nat) (shares : List Nat) : Automaton :=
  ⟨width, (statesAfter width shares.toArray [] (symbols width shares)).toArray⟩

/-- The state that stands for a symbol and leads to another state, if one is to follow. -/
def state? (automaton : Automaton) (symbol : Nat) (next? : Option Nat) : Option Nat :=
  automaton.states.findIdx? fun state => state.symbol == symbol && next?.all state.leadsTo

def literals : Automaton :=
  ofShares 6 ([4, 3] ++ List.replicate 11 2 ++ [1, 1, 1] ++ List.replicate 9 2 ++ [3, 2] ++
    List.replicate 5 1 ++ List.replicate 4 0)

def copies : Automaton :=
  ofShares 6 ([1, 4, 3] ++ List.replicate 6 2 ++ List.replicate 37 1 ++ List.replicate 7 0)

def offsets : Automaton :=
  ofShares 5 (List.replicate 6 1 ++ List.replicate 3 2 ++ List.replicate 15 1 ++
    List.replicate 5 0)

end Automaton

end TrustRoot.Zstandard
