import FabricConfig.Proofs.Design.Building
/-!
# PIPs and their nets

A design records twice which PIPs are bound: each net lists its PIPs, and one table gives the net of
each PIP. The two never disagree, whatever is added and bound.

* `Agrees`: the table and the lists say the same.
* `bindPip_eq`: all that binding a PIP does to a design that agrees.
* `IsBuilt.isBound`, `IsBuilt.boundNet?_iff_and_bindPip`: every design that is built agrees.
-/

namespace FabricConfig

/-- A net without a PIP in its list. -/
def Net.withoutPip (net : Net) (pip : PipId) : Net :=
  { net with pips := net.pips.filter (· != pip) }

/-- A net with a PIP at the end of its list. -/
def Net.withPip (net : Net) (pip : PipId) : Net := { net with pips := net.pips.push pip }

namespace Design

variable {design : Design} {ids : List NetId} {id : NetId} {net : Net} {pip : PipId}

/-! ### The nets of a design -/

theorem net_eq_ok_iff : design.net id = .ok net ↔ design.nets[id.toNat]? = some net := by
  unfold Design.net
  split
  · rename_i found
    rw [found, Except.ok.injEq, Option.some.injEq]
  · rename_i missing
    rw [missing]
    exact iff_of_false nofun nofun

theorem exists_net_iff : (∃ net, design.net id = .ok net) ↔ id.toNat < design.nets.size := by
  simp only [net_eq_ok_iff, Array.getElem?_eq_some_iff]
  exact ⟨fun ⟨_, there, _⟩ => there, fun there => ⟨_, there, rfl⟩⟩

/-- The same nets, and the same net for each PIP. Operations on cells leave both as they are. -/
structure SameNets (first second : Design) : Prop where
  nets : second.nets = first.nets
  bindings : second.bindings = first.bindings

theorem sameNets_number (design : Design) (name : String) :
    design.SameNets (design.number name).2 := ⟨rfl, rfl⟩

theorem sameNets_modifyCell (design : Design) (cell : CellId) (change : Cell → Cell) :
    design.SameNets (design.modifyCell cell change).1 := by
  unfold modifyCell
  split <;> exact ⟨rfl, rfl⟩

/-- A net that is added is empty, and it is the last one. -/
theorem nets_addNet (design : Design) (name : String) : (design.addNet name).2.nets =
    design.nets.push ⟨UInt32.ofNat design.nets.size, (design.number name).1, #[]⟩ := rfl

/-! ### The two records of what is bound -/

/-- **The table and the lists say the same**: a PIP is bound to a net exactly if it stands in the
list of the net with that number, and it stands there once. Nets past the last number are nets like
all others here, though nothing can be bound to them. -/
structure Agrees (design : Design) : Prop where
  there : ∀ pip id, design.boundNet? pip = some id → id.toNat < design.nets.size
  mem_pips_iff : ∀ (place : Nat) net, design.nets[place]? = some net →
    ∀ pip, pip ∈ net.pips ↔ ∃ id, design.boundNet? pip = some id ∧ id.toNat = place
  nodup : ∀ net ∈ design.nets, net.pips.toList.Nodup

theorem agrees_empty : ({} : Design).Agrees where
  there pip id bound := by simp [boundNet?] at bound
  mem_pips_iff place net found := by simp at found
  nodup net member := absurd member (Array.not_mem_empty net)

namespace Agrees

theorem bound_iff (agrees : design.Agrees) (pip : PipId) (id : NetId) :
    design.boundNet? pip = some id ↔ ∃ net, design.net id = .ok net ∧ pip ∈ net.pips := by
  constructor
  · intro bound
    obtain ⟨net, found⟩ := exists_net_iff.mpr (agrees.there pip id bound)
    exact ⟨net, found,
      (agrees.mem_pips_iff _ net (net_eq_ok_iff.mp found) pip).mpr ⟨id, bound, rfl⟩⟩
  · rintro ⟨net, found, member⟩
    obtain ⟨other, bound, same⟩ :=
      (agrees.mem_pips_iff _ net (net_eq_ok_iff.mp found) pip).mp member
    rwa [UInt32.toNat_inj.mp same] at bound

theorem sameNets (agrees : design.Agrees) {after : Design} (same : design.SameNets after) :
    after.Agrees := by
  have bound : ∀ pip, after.boundNet? pip = design.boundNet? pip := fun pip => by
    rw [boundNet?, boundNet?, same.bindings]
  constructor
  · simpa only [bound, same.nets] using agrees.there
  · simpa only [bound, same.nets] using agrees.mem_pips_iff
  · simpa only [same.nets] using agrees.nodup

theorem addNet (agrees : design.Agrees) (name : String) : (design.addNet name).2.Agrees := by
  have bound : ∀ pip, (design.addNet name).2.boundNet? pip = design.boundNet? pip := fun _ => rfl
  constructor
  · intro pip id found
    rw [nets_addNet, Array.size_push]
    exact Nat.lt_succ_of_lt (agrees.there pip id found)
  · intro place net found pip
    rw [nets_addNet, Array.getElem?_push] at found
    simp only [bound]
    split at found
    · rename_i last
      obtain rfl := Option.some.inj found
      refine iff_of_false (Array.not_mem_empty pip) ?_
      rintro ⟨id, held, rfl⟩
      exact Nat.ne_of_lt (agrees.there pip id held) last
    · exact agrees.mem_pips_iff place net found pip
  · intro net member
    rcases Array.mem_push.mp member with before | rfl
    · exact agrees.nodup net before
    · exact List.nodup_nil

/-- A PIP that is bound to no net or to another one is not in a net's list. -/
theorem withoutPip_eq (agrees : design.Agrees) {place : Nat}
    (found : design.nets[place]? = some net)
    (other : ∀ id, design.boundNet? pip = some id → id.toNat ≠ place) :
    net.withoutPip pip = net := by
  have kept : net.pips.filter (· != pip) = net.pips := by
    rw [Array.filter_eq_self]
    intro member inside
    rw [bne_iff_ne]
    rintro rfl
    obtain ⟨id, bound, same⟩ := (agrees.mem_pips_iff place net found _).mp inside
    exact other id bound same
  rw [Net.withoutPip, kept]

/-- It is enough to take a PIP off the list of the net that it is bound to. -/
theorem modify_withoutPip (agrees : design.Agrees) {old : NetId}
    (bound : design.boundNet? pip = some old) :
    design.nets.modify old.toNat (·.withoutPip pip) = design.nets.map (·.withoutPip pip) := by
  refine Array.ext_getElem? fun place => ?_
  rw [Array.getElem?_modify, Array.getElem?_map]
  by_cases same : old.toNat = place
  · rw [if_pos same]
  · rw [if_neg same]
    cases found : design.nets[place]? with
    | none => rfl
    | some net => rw [Option.map_some, agrees.withoutPip_eq found (by simpa [bound] using same)]

/-- A PIP that is not bound is in no list. -/
theorem map_withoutPip (agrees : design.Agrees) (unbound : design.boundNet? pip = none) :
    design.nets.map (·.withoutPip pip) = design.nets := by
  refine Array.ext_getElem? fun place => ?_
  rw [Array.getElem?_map]
  cases found : design.nets[place]? with
  | none => rfl
  | some net => rw [Option.map_some, agrees.withoutPip_eq found (by simp [unbound])]

end Agrees

/-- The net at a place after a PIP is bound to net `id`. -/
def rebound (id : NetId) (pip : PipId) (place : Nat) (net : Net) : Net :=
  if place = id.toNat then (net.withoutPip pip).withPip pip else net.withoutPip pip

theorem rebound_self : rebound id pip id.toNat = fun net => (net.withoutPip pip).withPip pip :=
  funext fun _ => if_pos rfl

theorem rebound_of_ne {place : Nat} (other : place ≠ id.toNat) :
    rebound id pip place = fun net => net.withoutPip pip :=
  funext fun _ => if_neg other

theorem mem_pips_rebound_iff {other : PipId} {place : Nat} :
    other ∈ (rebound id pip place net).pips ↔
      if other = pip then place = id.toNat else other ∈ net.pips := by
  unfold rebound
  by_cases same : other = pip <;> by_cases chosen : place = id.toNat <;>
    simp [Net.withPip, Net.withoutPip, same, chosen]

theorem nodup_pips_rebound {place : Nat} (nodup : net.pips.toList.Nodup) :
    (rebound id pip place net).pips.toList.Nodup := by
  have kept : (net.withoutPip pip).pips.toList.Nodup := by
    rw [Net.withoutPip, Array.toList_filter]
    exact nodup.filter _
  by_cases chosen : place = id.toNat
  · subst chosen
    simp only [rebound_self, Net.withPip, Array.toList_push]
    refine List.nodup_append.mpr ⟨kept, List.pairwise_singleton _ pip, ?_⟩
    simp [Net.withoutPip]
  · rw [rebound_of_ne chosen]
    exact kept

/-- **All that binding a PIP does**: the table gives the new net, no list holds the PIP but that of
the new net, which ends with it, and the outcome is the net from before. -/
theorem bindPip_eq (agrees : design.Agrees) (there : id.toNat < design.nets.size) (pip : PipId) :
    design.bindPip id pip =
      ({ design with
          bindings := design.bindings.insert pip id
          nets := design.nets.mapIdx (rebound id pip) },
        .ok (design.boundNet? pip)) := by
  have appended : (design.nets.map (·.withoutPip pip)).modify id.toNat (·.withPip pip) =
      design.nets.mapIdx (rebound id pip) := by
    refine Array.ext_getElem? fun place => ?_
    rw [Array.getElem?_modify, Array.getElem?_map, Array.getElem?_mapIdx]
    by_cases same : id.toNat = place
    · subst same
      rw [if_pos rfl, Option.map_map, rebound_self]
      rfl
    · rw [if_neg same, rebound_of_ne (Ne.symm same)]
  rw [← appended]
  cases bound : design.boundNet? pip with
  | none =>
    rw [agrees.map_withoutPip bound]
    simp [bindPip, bound, appendPip, there, Except.map, Net.withPip]
  | some old =>
    have oldThere := agrees.there pip old bound
    rw [← agrees.modify_withoutPip bound]
    simp [bindPip, bound, removePip, appendPip, oldThere, there, Except.map, Net.withPip,
      Net.withoutPip]

theorem nets_bindPip (agrees : design.Agrees) (there : id.toNat < design.nets.size)
    (pip : PipId) : (design.bindPip id pip).1.nets = design.nets.mapIdx (rebound id pip) := by
  rw [bindPip_eq agrees there]

theorem boundNet?_bindPip (agrees : design.Agrees) (there : id.toNat < design.nets.size)
    (other : PipId) : (design.bindPip id pip).1.boundNet? other =
      if other = pip then some id else design.boundNet? other := by
  rw [bindPip_eq agrees there, boundNet?, Std.ExtTreeMap.getElem?_insert]
  simp only [Std.LawfulEqOrd.compare_eq_iff_eq, eq_comm (a := pip), boundNet?]

/-- **Binding a PIP keeps the two records in agreement.** -/
theorem Agrees.bindPip (agrees : design.Agrees) (there : id.toNat < design.nets.size)
    (pip : PipId) : (design.bindPip id pip).1.Agrees := by
  constructor
  · intro other place bound
    rw [boundNet?_bindPip agrees there] at bound
    rw [nets_bindPip agrees there, Array.size_mapIdx]
    split at bound
    · obtain rfl := Option.some.inj bound
      exact there
    · exact agrees.there other place bound
  · intro place net found other
    rw [nets_bindPip agrees there, Array.getElem?_mapIdx] at found
    obtain ⟨before, held, rfl⟩ := Option.map_eq_some_iff.mp found
    rw [mem_pips_rebound_iff, boundNet?_bindPip agrees there]
    by_cases same : other = pip
    · simp [same, eq_comm]
    · simpa only [if_neg same] using agrees.mem_pips_iff place before held other
  · intro net member
    rw [nets_bindPip agrees there] at member
    obtain ⟨place, within, rfl⟩ := Array.mem_mapIdx.mp member
    exact nodup_pips_rebound (agrees.nodup _ (Array.getElem_mem within))

/-! ### How many PIPs are bound -/

/-- The PIPs in the lists of all nets. -/
def listedPips (design : Design) : List PipId :=
  design.nets.toList.flatMap fun net => net.pips.toList

theorem mem_listedPips_iff :
    pip ∈ design.listedPips ↔ ∃ net ∈ design.nets, pip ∈ net.pips := by
  simp only [listedPips, List.mem_flatMap, Array.mem_toList_iff]

/-- The PIPs that are bound are those that are listed. -/
theorem Agrees.exists_bound_iff (agrees : design.Agrees) :
    (∃ id, design.boundNet? pip = some id) ↔ pip ∈ design.listedPips := by
  rw [mem_listedPips_iff]
  constructor
  · rintro ⟨id, bound⟩
    obtain ⟨net, found, member⟩ := (agrees.bound_iff pip id).mp bound
    exact ⟨net, Array.mem_of_getElem? (net_eq_ok_iff.mp found), member⟩
  · rintro ⟨net, inside, member⟩
    obtain ⟨place, found⟩ := Array.mem_iff_getElem?.mp inside
    obtain ⟨id, bound, _⟩ := (agrees.mem_pips_iff place net found pip).mp member
    exact ⟨id, bound⟩

/-- A PIP stands in one list only. -/
theorem Agrees.place_unique (agrees : design.Agrees) {first second : Nat}
    {firstNet secondNet : Net} (firstFound : design.nets[first]? = some firstNet)
    (secondFound : design.nets[second]? = some secondNet) (inFirst : pip ∈ firstNet.pips)
    (inSecond : pip ∈ secondNet.pips) : first = second := by
  obtain ⟨id, bound, rfl⟩ := (agrees.mem_pips_iff first firstNet firstFound pip).mp inFirst
  obtain ⟨other, again, rfl⟩ := (agrees.mem_pips_iff second secondNet secondFound pip).mp inSecond
  rw [Option.some.inj (bound.symm.trans again)]

/-- No PIP is listed twice, in one list or in two. -/
theorem Agrees.nodup_listedPips (agrees : design.Agrees) : design.listedPips.Nodup := by
  refine List.pairwise_flatMap.mpr ⟨?_, ?_⟩
  · intro net member
    exact agrees.nodup net (Array.mem_toList_iff.mp member)
  · refine List.pairwise_iff_getElem.mpr fun first second firstThere secondThere before => ?_
    rintro pip inFirst _ inSecond rfl
    have same : first = second := agrees.place_unique
      (Array.getElem?_eq_getElem firstThere) (Array.getElem?_eq_getElem secondThere)
      (Array.mem_toList_iff.mp inFirst) (Array.mem_toList_iff.mp inSecond)
    exact Nat.ne_of_lt before same

/-- **As many PIPs are bound as are listed.** -/
theorem Agrees.boundPipCount_eq (agrees : design.Agrees) :
    design.boundPipCount = design.listedPips.length := by
  rw [boundPipCount, ← Std.ExtTreeMap.length_keys]
  refine ((List.perm_ext_iff_of_nodup Std.ExtTreeMap.nodup_keys agrees.nodup_listedPips).mpr
    fun pip => ?_).length_eq
  rw [Std.ExtTreeMap.mem_keys, Std.ExtTreeMap.mem_iff_isSome_getElem?, Option.isSome_iff_exists]
  exact agrees.exists_bound_iff

theorem foldl_pips_size (nets : List Net) (count : Nat) :
    nets.foldl (fun count net => count + net.pips.size) count =
      count + (nets.flatMap fun net => net.pips.toList).length := by
  induction nets generalizing count with
  | nil => rfl
  | cons net nets ih =>
    rw [List.foldl_cons, ih, List.flatMap_cons, List.length_append, Array.length_toList]
    exact Nat.add_assoc ..

theorem length_listedPips (design : Design) :
    design.listedPips.length = design.nets.foldl (fun count net => count + net.pips.size) 0 := by
  rw [← Array.foldl_toList, foldl_pips_size, Nat.zero_add]
  rfl

/-! ### Whole designs -/

/-- Operations on cells leave the nets alone, so a fact about the nets of every design that is built
need only be kept when a net is added and when a PIP is bound. -/
theorem IsBuilt.rec_nets {Holds : Design → List NetId → Prop} (empty : Holds {} [])
    (sameNets : ∀ {design after ids}, Holds design ids → design.SameNets after → Holds after ids)
    (addNet : ∀ {design ids}, Holds design ids → ∀ name,
      Holds (design.addNet name).2 ((design.addNet name).1 :: ids))
    (bindPip : ∀ {design ids}, Holds design ids → ∀ id ∈ ids, ∀ pip,
      Holds (design.bindPip id pip).1 ids)
    (built : design.IsBuilt ids) : Holds design ids := by
  induction built with
  | empty => exact empty
  | addCell _ name kind held => exact sameNets held ⟨rfl, rfl⟩
  | place _ cell bel held => exact sameNets held (sameNets_modifyCell _ cell _)
  | setParameter _ cell key value held =>
    have numbered : Holds _ _ := sameNets held (sameNets_number _ key)
    exact sameNets numbered (sameNets_modifyCell _ cell _)
  | setAttribute _ cell key value held =>
    have numbered : Holds _ _ := sameNets held (sameNets_number _ key)
    exact sameNets numbered (sameNets_modifyCell _ cell _)
  | addNet _ name held => exact addNet held name
  | bindPip _ given pip held => exact bindPip held _ given pip

/-- The nets of a design are the ones that were given out, and its two records agree. -/
structure IsBound (design : Design) (ids : List NetId) : Prop where
  agrees : design.Agrees
  mem_iff : ∀ id, id ∈ ids ↔ id.toNat < design.nets.size

/-- **The two records of a design that is built agree.** -/
theorem IsBuilt.isBound (built : design.IsBuilt ids) : design.IsBound ids := by
  refine built.rec_nets ⟨agrees_empty, by simp⟩ ?_ ?_ ?_
  · intro design after ids held same
    exact ⟨held.agrees.sameNets same, by simpa only [same.nets] using held.mem_iff⟩
  · intro design ids held name
    refine ⟨held.agrees.addNet name, fun id => ?_⟩
    have reached := id.toNat_lt
    show id ∈ UInt32.ofNat design.nets.size :: ids ↔ id.toNat < (design.nets.push _).size
    rw [List.mem_cons, held.mem_iff, Array.size_push, eq_comm, UInt32.ofNat_eq_iff_mod_eq_toNat]
    omega
  · intro design ids held id given pip
    have there := (held.mem_iff id).mp given
    refine ⟨held.agrees.bindPip there pip, ?_⟩
    simpa only [nets_bindPip held.agrees there, Array.size_mapIdx] using held.mem_iff

/-- **In every design that is built, the table and the lists of the nets say the same**: a PIP is
bound to a net exactly if it stands in the net's list, no PIP stands twice in the lists, and as many
are bound as stand in them. Binding a PIP to a net that was given out gives the net from before,
and changes the lists only in that the PIP leaves its list and becomes the last of the net's. -/
theorem IsBuilt.boundNet?_iff_and_bindPip (built : design.IsBuilt ids) :
    (∀ pip id, design.boundNet? pip = some id ↔
      ∃ net, design.net id = .ok net ∧ pip ∈ net.pips) ∧
    (∀ id net, design.net id = .ok net → net.pips.toList.Nodup) ∧
    (∀ first second firstNet secondNet pip, design.net first = .ok firstNet →
      design.net second = .ok secondNet → pip ∈ firstNet.pips → pip ∈ secondNet.pips →
      first = second) ∧
    design.boundPipCount = design.nets.foldl (fun count net => count + net.pips.size) 0 ∧
    ∀ id ∈ ids, ∀ pip,
      (design.bindPip id pip).2 = .ok (design.boundNet? pip) ∧
      (design.bindPip id pip).1.nets.size = design.nets.size ∧
      ∀ place net, design.net place = .ok net →
        (design.bindPip id pip).1.net place = .ok { net with
          pips := if place = id then (net.pips.filter (· != pip)).push pip
            else net.pips.filter (· != pip) } := by
  obtain ⟨agrees, given⟩ := built.isBound
  refine ⟨agrees.bound_iff, ?_, ?_, ?_, ?_⟩
  · intro id net found
    exact agrees.nodup net (Array.mem_of_getElem? (net_eq_ok_iff.mp found))
  · intro first second firstNet secondNet pip firstFound secondFound inFirst inSecond
    exact UInt32.toNat_inj.mp (agrees.place_unique (net_eq_ok_iff.mp firstFound)
      (net_eq_ok_iff.mp secondFound) inFirst inSecond)
  · rw [agrees.boundPipCount_eq, length_listedPips]
  · intro id member pip
    have there := (given id).mp member
    refine ⟨by rw [bindPip_eq agrees there], by rw [nets_bindPip agrees there, Array.size_mapIdx],
      ?_⟩
    intro place net found
    rw [net_eq_ok_iff, nets_bindPip agrees there, Array.getElem?_mapIdx, net_eq_ok_iff.mp found,
      Option.map_some]
    by_cases chosen : place = id
    · subst chosen
      simp only [rebound_self, if_true, Net.withPip, Net.withoutPip]
    · simp only [rebound_of_ne (mt UInt32.toNat_inj.mp chosen), if_neg chosen, Net.withoutPip]

/-- Two nets, each with a PIP of its own, after which the first PIP is bound to the second net. -/
def handedOver : Design :=
  let twoNets := (({} : Design).addNet "first").2.addNet "second" |>.2
  let apart := ((twoNets.bindPip 0 ⟨⟨1, 1⟩, 4⟩).1.bindPip 1 ⟨⟨1, 2⟩, 0⟩).1
  (apart.bindPip 1 ⟨⟨1, 1⟩, 4⟩).1

theorem isBuilt_handedOver : handedOver.IsBuilt [1, 0] := by
  have twoNets : IsBuilt (({} : Design).addNet "first" |>.2.addNet "second").2 [1, 0] :=
    .addNet (.addNet .empty "first") "second"
  have first : 0 ∈ ([1, 0] : List NetId) := by decide
  have second : 1 ∈ ([1, 0] : List NetId) := by decide
  exact ((twoNets.bindPip first ⟨⟨1, 1⟩, 4⟩).bindPip second ⟨⟨1, 2⟩, 0⟩).bindPip second ⟨⟨1, 1⟩, 4⟩

/-- Binding the second PIP of `handedOver` once more puts it behind the first one. -/
theorem boundNet?_iff_and_bindPip_handedOver :
    handedOver.IsBuilt [1, 0] ∧ handedOver.boundPipCount = 2 ∧
      (handedOver.bindPip 1 ⟨⟨1, 2⟩, 0⟩).2 = .ok (some 1) ∧
      ∃ net, (handedOver.bindPip 1 ⟨⟨1, 2⟩, 0⟩).1.net 1 = .ok net ∧
        net.pips = #[⟨⟨1, 1⟩, 4⟩, ⟨⟨1, 2⟩, 0⟩] := by
  obtain ⟨bound_iff, _, _, count, binds⟩ := IsBuilt.boundNet?_iff_and_bindPip isBuilt_handedOver
  have lists : handedOver.nets.map (·.pips) = #[#[], #[⟨⟨1, 2⟩, 0⟩, ⟨⟨1, 1⟩, 4⟩]] := by
    decide +kernel
  obtain ⟨net, found, listed⟩ : ∃ net, handedOver.net 1 = .ok net ∧
      net.pips = #[⟨⟨1, 2⟩, 0⟩, ⟨⟨1, 1⟩, 4⟩] := by
    have second : (handedOver.nets.map (·.pips))[(1 : NetId).toNat]? =
        some #[⟨⟨1, 2⟩, 0⟩, ⟨⟨1, 1⟩, 4⟩] := by
      rw [lists]
      rfl
    simpa only [Array.getElem?_map, Option.map_eq_some_iff, net_eq_ok_iff] using second
  obtain ⟨previous, _, after⟩ := binds 1 (by decide) ⟨⟨1, 2⟩, 0⟩
  refine ⟨isBuilt_handedOver, ?_, ?_, _, after 1 net found, ?_⟩
  · rw [count]
    decide +kernel
  · rw [previous, (bound_iff _ 1).mpr ⟨net, found, by simp [listed]⟩]
  · simp [listed]

end Design

end FabricConfig
