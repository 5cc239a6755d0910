import OspfLite.Router.Instances
import OspfLite.Router.Moves
import OspfLite.Router.Retransmission

/-!
# LSAs of age MaxAge

An LSA of age MaxAge withdraws the instance before it.  The handler reads its
age as zero, so it takes the LSA for an ordinary one.
-/

namespace OspfLite

/-- The age field as it is on the wire. -/
def wireAge (data : Memory) : UInt16 := ntohs (LSAHeader.load data).lsAge

/-- The header that a received LSA of age MaxAge stands for. -/
def maxAgeHeader (data : Memory) : LSAHeader :=
  { lsaHeaderHost data with lsAge := maxAge }

namespace Router

variable {src : UInt32} {data : Memory} {s s' : LsuState}

/-- Step 4: the LSA is acknowledged to its sender and dropped. -/
def dropped (src : UInt32) (data : Memory) (s : LsuState) : LsuState :=
  { s with
    router := s.router.sendOspfPacket (ntohl src) typeLsAck
      (data.take LSAHeader.size) }

/-- The LSA has been flooded, and is stored with its age. -/
def Flushes (src : UInt32) (data : Memory) (s s' : LsuState) : Prop :=
  s'.router.log = (s.router.floodArea data src).1.log ∧
    s'.router.lsdb.findInstance (maxAgeHeader data) =
      some (maxAgeHeader data)

/-- What a round should do with an LSA of age MaxAge: drop it where there is
nothing to withdraw and nobody who may still ask for it, and put it into the
place of an older instance. -/
def FlushRound (src : UInt32) (s : LsuState) (data : Memory) : Prop :=
  s.badLsReq = false → ChecksumOk data → wireAge data = maxAge →
    (lsuRound src s data = .ok (dropped src data s) ↔
      s.router.lsdb.findInstance (maxAgeHeader data) = none ∧
        ¬s.router.interface.LoadingOrExchange) ∧
    ∀ stored ∈ s.router.lsdb.findInstance (maxAgeHeader data),
      lsaHeaderCmp (maxAgeHeader data) stored < 0 →
        ∃ s', lsuRound src s data = .ok s' ∧ Flushes src data s s'

/-- The LSA need not be dropped, and there is no older instance to flush. -/
def NothingToFlush (_src : UInt32) (s : LsuState) (data : Memory) : Prop :=
  s.badLsReq = false → ChecksumOk data → wireAge data = maxAge →
    (s.router.lsdb.findInstance (maxAgeHeader data) = none →
      s.router.interface.LoadingOrExchange) ∧
    ∀ stored ∈ s.router.lsdb.findInstance (maxAgeHeader data),
      0 ≤ lsaHeaderCmp (maxAgeHeader data) stored

/-- No round acknowledges an LSA at once. -/
theorem lsuRound_ne_dropped :
    lsuRound src s data ≠ .ok (dropped src data s) := by
  intro h
  obtain ⟨entries, hlog, hentries⟩ := lsuRound_log h
  have hack : entries = [.sent (ntohl src) (s.router.ospfPacket
      s.router.interface.auType typeLsAck (data.take LSAHeader.size))] :=
    (List.append_cancel_left hlog).symm
  rcases hentries _ (by rw [hack]; exact List.mem_singleton_self _) with
    ⟨dst, auType, body, hsent⟩ | hraised
  · have hpacket := congrArg (fun l : List UInt8 => l[1]?)
      (LogEntry.sent.inj hsent).2
    simp only [ospfPacket_type, Option.some.injEq] at hpacket
    exact absurd hpacket (by decide)
  · cases hraised

/-- A received instance is never stored with age MaxAge. -/
theorem lsuRound_not_stored {stored : LSAHeader}
    (hstored : s.router.lsdb.findInstance (maxAgeHeader data) = some stored)
    (holder : lsaHeaderCmp (maxAgeHeader data) stored < 0)
    (h : lsuRound src s data = .ok s') :
    s'.router.lsdb.findInstance (maxAgeHeader data) ≠
      some (maxAgeHeader data) := by
  have hkept : s.router.lsdb.findInstance (maxAgeHeader data) ≠
      some (maxAgeHeader data) := by
    rw [hstored]
    intro hself
    rw [Option.some.inj hself, lsaHeaderCmp_self] at holder
    exact absurd holder (lt_irrefl _)
  have hinstalled : ∀ lsdb, s.router.lsdb.install
      s.router.uninit.networkMask data = .ok lsdb →
      lsdb.findInstance (maxAgeHeader data) ≠ some (maxAgeHeader data) := by
    intro lsdb hinstall
    rw [LSDB.findInstance_install hinstall]
    split_ifs
    · intro hself
      exact ntoh_lsAge_ne_maxAge data
        (congrArg LSAHeader.lsAge (Option.some.inj hself))
    · exact hkept
  rcases lsuRound_cases h with
    rfl | ⟨-, -, -, ⟨-, haccept⟩ | ⟨-, same, hreject⟩⟩
  · exact hkept
  · exact hinstalled _ (acceptLsa_lsdb haccept)
  · rcases rejectLsa_lsdb hreject with hsame | hinstall
    · rw [hsame]
      exact hkept
    · exact hinstalled _ hinstall

/-- The rounds that do what they should with an LSA of age MaxAge are those in
which there is nothing to do. -/
theorem flushRound_iff (src : UInt32) (s : LsuState) (data : Memory) :
    FlushRound src s data ↔ NothingToFlush src s data := by
  refine imp_congr_right fun _ => imp_congr_right fun _ =>
    imp_congr_right fun _ => and_congr ?_ ?_
  · rw [iff_false_left lsuRound_ne_dropped, not_and, not_not]
  · refine forall₂_congr fun stored hstored => ?_
    rw [← not_lt]
    refine imp_congr_right fun holder => iff_false_intro ?_
    rintro ⟨s', hround, -, hflushed⟩
    exact lsuRound_not_stored hstored holder hround hflushed

/-- In a run of the process, LSAs of age MaxAge are dropped and flushed as they
should be exactly when none is to be dropped and none to be flushed. -/
theorem maxAge_flushed_iff (r : Router) (steps : List Step) :
    Along step (EachLsuRound FlushRound) r steps ↔
      Along step (EachLsuRound NothingToFlush) r steps :=
  along_congr (eachLsuRound_congr flushRound_iff) r steps

/-! ## A withdrawn LSA -/

/-- An instance of the Router LSA of the peer, without links. -/
def peerLsuOf (age lsSeqNum : UInt32) : List UInt8 :=
  lsuData [sealLsa age
    ⟨0, 2, lsaRouter, 0x02020202, 0x02020202, lsSeqNum, 0, 24⟩
    [0, 0, 0, 0]]

/-- The second instance, of age MaxAge, at the receiver. -/
def withdrawal : Memory :=
  (fromPeer typeLsu (peerLsuOf 3600 0x80000002)).advance (bodyOffset + 4)

/-- The neighbor sends an LSA and withdraws it: the second instance is stored
as an ordinary one. -/
theorem withdrawn_lsa_stored :
    ¬Along step (EachLsuRound FlushRound)
      (start 0x01010101 initialSequenceNumber 0
        ⟨0, 0, 0, false, false, false⟩ [] 0x0a000001 0xffffff00 [])
      [.frame 0 (fromPeer typeHello peerHello),
        .frame 0 (fromPeer typeLsu (peerLsuOf 1 0x80000001)),
        .frame 0 (fromPeer typeLsu (peerLsuOf 3600 0x80000002))] := by
  have hreached : ∃ t, runFrom step
      (start 0x01010101 initialSequenceNumber 0
        ⟨0, 0, 0, false, false, false⟩ [] 0x0a000001 0xffffff00 [])
      [.frame 0 (fromPeer typeHello peerHello),
        .frame 0 (fromPeer typeLsu (peerLsuOf 1 0x80000001))] = .ok t ∧
      t.Admits (fromPeer typeLsu (peerLsuOf 3600 0x80000002)) ∧
      t.findNeighbor 0x0a000002 ≠ none ∧
      ∃ stored ∈ t.lsdb.findInstance (maxAgeHeader withdrawal),
        lsaHeaderCmp (maxAgeHeader withdrawal) stored < 0 :=
    Outcome.exists_of_completesWith (by decide +kernel)
  obtain ⟨t, hrun, hadmits, hknown, stored, hstored, holder⟩ := hreached
  refine not_along_of_prefix (P := EachLsuRound FlushRound)
    (i := .frame 0 (fromPeer typeLsu (peerLsuOf 3600 0x80000002))) hrun ?_
  intro h
  have hround := h.fromPeer hadmits hknown (by decide +kernel)
  rw [flushRound_iff] at hround
  have hnothing := (hround rfl (by decide +kernel) (by decide +kernel)).2
  exact absurd holder (not_lt.mpr (hnothing stored hstored))

end Router
end OspfLite
