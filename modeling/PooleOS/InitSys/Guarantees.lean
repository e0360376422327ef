import PooleOS.InitSys.System

/- What a bundle that the native parser accepts guarantees, in terms of its records. -/
namespace PooleOS.InitSys

open List Nat

namespace Bundle

variable (bundle : Bundle)

/-- The records of the tables, by index. -/
def dependency (index : Nat) : Bytes :=
  bundle.raw.slice (bundle.raw.word 76 4 + index * dependencyBytes) dependencyBytes
def resource (index : Nat) : Bytes := bundle.raw.slice (bundle.raw.word 80 4 + index * resourceBytes) resourceBytes
def capability (index : Nat) : Bytes :=
  bundle.raw.slice (bundle.raw.word 84 4 + index * capabilityBytes) capabilityBytes

/-- The fields of a dependency record. -/
def dependent (index : Nat) : Nat := (bundle.dependency index).word 0 4
def prerequisite (index : Nat) : Nat := (bundle.dependency index).word 4 4
def dependencyKind (index : Nat) : Nat := (bundle.dependency index).word 8 2

/-- The fields of a capability record, which is found by its number. -/
def parent (capability : Nat) : Nat := (bundle.capability (capability - 1)).word 4 4
def holder (capability : Nat) : Nat := (bundle.capability (capability - 1)).word 8 4
def resourceId (capability : Nat) : Nat := (bundle.capability (capability - 1)).word 12 4
def rights (capability : Nat) : Nat := (bundle.capability (capability - 1)).word 16 8
def revokeGroup (capability : Nat) : Nat := (bundle.capability (capability - 1)).word 28 4

/-- The service that provides what a capability is on, or zero. -/
def provider (capability : Nat) : Nat := (bundle.resource (bundle.resourceId capability - 1)).word 4 4

/-- `start_order[..service_count]`. -/
def started : List Nat := bundle.startOrder.take bundle.serviceCount

/-- An order of all services in which each comes after what it depends on. -/
structure Follows (order : List Nat) : Prop where
  perm : order.Perm (List.range' 1 bundle.serviceCount)
  after : ∀ index < bundle.dependencyCount,
    order.idxOf (bundle.prerequisite index) < order.idxOf (bundle.dependent index)

/-- A strong dependency, from a prerequisite to what depends on it. -/
def StrongEdge (prerequisite dependent : Nat) : Prop :=
  ∃ index < bundle.dependencyCount, bundle.dependencyKind index = dependencyStrong ∧
    bundle.prerequisite index = prerequisite ∧ bundle.dependent index = dependent

/-- The links from a capability to its parent, to the parent of that, and so on, for so many steps. -/
structure Rooted (capability steps : Nat) : Prop where
  listed : ∀ step ≤ steps, 1 ≤ bundle.parent^[step] capability ∧
    bundle.parent^[step] capability ≤ bundle.capabilityCount
  distinct : ∀ early late, early < late → late ≤ steps →
    bundle.parent^[early] capability ≠ bundle.parent^[late] capability
  last : bundle.parent (bundle.parent^[steps] capability) = 0
  resource : ∀ step ≤ steps,
    bundle.resourceId (bundle.parent^[step] capability) = bundle.resourceId (bundle.parent^[steps] capability)
  group : ∀ step ≤ steps,
    bundle.revokeGroup (bundle.parent^[step] capability) = bundle.revokeGroup (bundle.parent^[steps] capability)
  rights : ∀ step ≤ steps,
    without (bundle.rights (bundle.parent^[step] capability)) (bundle.rights (bundle.parent^[steps] capability)) = 0
  held : bundle.holder (bundle.parent^[steps] capability) = bundle.rootServiceId ∨
    bundle.provider (bundle.parent^[steps] capability) ≠ 0 ∧
      bundle.holder (bundle.parent^[steps] capability) = bundle.provider (bundle.parent^[steps] capability)

/-- What an accepted bundle guarantees. -/
structure Guaranteed : Prop where
  follows : bundle.Follows bundle.started
  first : bundle.started.head? = some bundle.rootServiceId
  least : ∀ order, bundle.Follows order → ¬ List.Lex (· < ·) order bundle.started
  reachable : ∀ service ∈ List.range' 1 bundle.serviceCount,
    Relation.ReflTransGen bundle.StrongEdge bundle.rootServiceId service
  rooted : ∀ capability, 1 ≤ capability → capability ≤ bundle.capabilityCount →
    ∃ steps, bundle.Rooted capability steps
  later : ∀ capability, 1 ≤ capability → capability ≤ bundle.capabilityCount → bundle.provider capability ≠ 0 →
    bundle.provider capability ≠ bundle.holder capability →
    bundle.started.idxOf (bundle.provider capability) < bundle.started.idxOf (bundle.holder capability)

end Bundle

section Chains

variable {bundle : Bundle} {capability steps : Nat}

/-- A capability with the right parent is rooted when its parent is. -/
theorem Bundle.Rooted.child (above : bundle.Rooted (bundle.parent capability) steps) (some : 1 ≤ capability)
    (listed : capability ≤ bundle.capabilityCount) (below : ∀ step ≤ steps,
      bundle.parent^[step] (bundle.parent capability) < capability)
    (resource : bundle.resourceId (bundle.parent capability) = bundle.resourceId capability)
    (group : bundle.revokeGroup capability = bundle.revokeGroup (bundle.parent capability))
    (rights : without (bundle.rights capability) (bundle.rights (bundle.parent capability)) = 0) :
    bundle.Rooted capability (steps + 1) := by
  refine ⟨?_, ?_, above.last, ?_, ?_, ?_, above.held⟩
  · intro step within
    cases step with
    | zero => exact ⟨some, listed⟩
    | succ step => exact above.listed step (by omega)
  · intro early late less within
    cases late with
    | zero => exact absurd less (not_lt_zero _)
    | succ late =>
      cases early with
      | zero => exact (below late (by omega)).ne'
      | succ early => exact above.distinct early late (by omega) (by omega)
  · intro step within
    cases step with
    | zero => exact resource.symm.trans (above.resource 0 (zero_le _))
    | succ step => exact above.resource step (by omega)
  · intro step within
    cases step with
    | zero => exact group.trans (above.group 0 (zero_le _))
    | succ step => exact above.group step (by omega)
  · intro step within
    cases step with
    | zero => exact without_trans rights (above.rights 0 (zero_le _))
    | succ step => exact above.rights step (by omega)

end Chains

section Views

variable {data : Bytes} {offset count size index : Nat}

/-- A record of a table is a slice of the bundle. -/
theorem recordAt_slice (inside : index < count) :
    recordAt (data.slice offset (count * size)) size index = data.slice (offset + index * size) size := by
  have room : index * size + size ≤ count * size := by
    have step := mul_le_mul_right size (succ_le_of_lt inside)
    rwa [succ_mul] at step
  unfold recordAt Bytes.slice
  rw [drop_take, take_take, drop_drop, min_eq_left (by omega)]

end Views

section Accepted

variable {sha : Sha256} {data : Bytes} {order : List Nat}

theorem Accepted.started (accepted : Accepted sha data order) : (bundleOf data (headerOf data) order).started = order :=
  take_left' accepted.system.started.length

theorem Accepted.dependency_mem {index : Nat} (less : index < (headerOf data).dependencyCount) :
    (⟨(bundleOf data (headerOf data) order).dependent index, (bundleOf data (headerOf data) order).prerequisite index,
      (bundleOf data (headerOf data) order).dependencyKind index⟩ : DependencyMeta) ∈
      (tablesOf data (headerOf data)).dependencies := by
  refine mem_records.mpr ⟨index, less, ?_⟩
  rw [Header.dependencies, recordAt_slice less]
  rfl

theorem Accepted.mem_dependency {item : DependencyMeta} (member : item ∈ (tablesOf data (headerOf data)).dependencies) :
    ∃ index < (headerOf data).dependencyCount, item = ⟨(bundleOf data (headerOf data) order).dependent index,
        (bundleOf data (headerOf data) order).prerequisite index,
        (bundleOf data (headerOf data) order).dependencyKind index⟩ := by
  obtain ⟨index, less, rfl⟩ := mem_records.mp member
  refine ⟨index, less, ?_⟩
  rw [Header.dependencies, recordAt_slice less]
  rfl

theorem Accepted.numbered (accepted : Accepted sha data order) :
    Numbered (headerOf data) (tablesOf data (headerOf data)) :=
  accepted.tables.numbered accepted.header.counts accepted.header.root

theorem mem_edges {dependent prerequisite : Nat} : (dependent, prerequisite) ∈ (tablesOf data (headerOf data)).edges ↔
      ∃ index < (headerOf data).dependencyCount, (bundleOf data (headerOf data) order).dependent index = dependent ∧
          (bundleOf data (headerOf data) order).prerequisite index = prerequisite := by
  rw [Tables.edges, mem_map]
  constructor
  · rintro ⟨item, member, same⟩
    obtain ⟨index, less, rfl⟩ := @Accepted.mem_dependency _ order _ member
    exact ⟨index, less, Prod.mk.inj same⟩
  · rintro ⟨index, less, rfl, rfl⟩
    exact ⟨_, Accepted.dependency_mem less, rfl⟩

theorem Accepted.respects_of_follows {rival : List Nat}
    (follows : (bundleOf data (headerOf data) order).Follows rival) :
    Respects (serviceIds (headerOf data).serviceCount) (Needs (tablesOf data (headerOf data)).edges) rival := by
  refine ⟨follows.perm, fun item other _ need => ?_⟩
  obtain ⟨index, less, rfl, rfl⟩ := (@mem_edges _ order _ _).mp need
  exact follows.after index less

theorem Accepted.follows (accepted : Accepted sha data order) :
    (bundleOf data (headerOf data) order).Follows order := by
  have started := accepted.system.started
  have respects := started.greedy.respects (by rw [started.length, serviceIds, length_range'])
  refine ⟨respects.perm, fun index less => ?_⟩
  have member := @Accepted.dependency_mem _ order _ less
  obtain ⟨some, bound⟩ := (accepted.numbered.dependencies _ member).1
  exact respects.after _ _ (mem_serviceIds.mpr ⟨pos_of_ne_zero some, bound⟩) (mem_edges.mpr ⟨index, less, rfl, rfl⟩)

theorem Accepted.least (accepted : Accepted sha data order) {rival : List Nat}
    (follows : (bundleOf data (headerOf data) order).Follows rival) : ¬ List.Lex (· < ·) rival order := by
  have started := accepted.system.started
  exact started.greedy.least (serviceIds_nodup _) (by rw [started.length, serviceIds, length_range'])
    (respects_of_follows follows)

theorem strong_iff {prerequisite dependent : Nat} : Strong (tablesOf data (headerOf data)) prerequisite dependent ↔
    (bundleOf data (headerOf data) order).StrongEdge prerequisite dependent := by
  constructor
  · rintro ⟨item, member, kind, before, after⟩
    obtain ⟨index, less, rfl⟩ := @Accepted.mem_dependency _ order _ member
    exact ⟨index, less, kind, before, after⟩
  · rintro ⟨index, less, kind, before, after⟩
    exact ⟨_, Accepted.dependency_mem less, kind, before, after⟩

section

variable (accepted : Accepted sha data order)
include accepted

theorem Accepted.reachable {service : Nat}
    (listed : service ∈ serviceIds (headerOf data).serviceCount) :
    Relation.ReflTransGen (bundleOf data (headerOf data) order).StrongEdge (headerOf data).rootServiceId service :=
  Relation.ReflTransGen.mono (fun _ _ => strong_iff.mp) _ _ (accepted.system.reachable service listed)

/-- Only the root service waits for nothing, since every other one is reached by a dependency. -/
theorem Accepted.first : order.head? = some (headerOf data).rootServiceId := by
  have started := accepted.system.started
  have several := accepted.header.counts.services.1
  cases order with
  | nil => exact absurd started.length.symm (by simp; omega)
  | cons item rest =>
    obtain ⟨ready, -⟩ := started.greedy.split (show item :: rest = [] ++ item :: rest from rfl)
    have path := accepted.system.reachable item ready.listed
    rcases Relation.ReflTransGen.cases_tail path with root | ⟨before, -, dependency, member, -, -, same⟩
    · rw [root]
      rfl
    · have need : Needs (tablesOf data (headerOf data)).edges item dependency.prerequisite := by
        rw [Needs, ← same]
        exact mem_map_of_mem member
      exact absurd (ready.met _ need) not_mem_nil

theorem Accepted.capability_rule {capability : Nat} (some : 1 ≤ capability)
    (listed : capability ≤ (headerOf data).capabilityCount) :
    CapabilityRule (headerOf data) ((headerOf data).resources data) ((headerOf data).capabilities data) (capability - 1)
      ((bundleOf data (headerOf data) order).capability (capability - 1)) := by
  have less : capability - 1 < (headerOf data).capabilityCount := by omega
  have rule := accepted.tables.capabilities (capability - 1) less
  rw [Header.capabilities, recordAt_slice less] at rule
  exact rule

/-- What a capability that is not derived says about its holder. -/
theorem Accepted.source {capability : Nat} (some : 1 ≤ capability)
    (listed : capability ≤ (headerOf data).capabilityCount)
    (root : (bundleOf data (headerOf data) order).parent capability = 0) :
    (bundleOf data (headerOf data) order).holder capability = (headerOf data).rootServiceId ∨
      (bundleOf data (headerOf data) order).provider capability ≠ 0 ∧
        (bundleOf data (headerOf data) order).holder capability =
          (bundleOf data (headerOf data) order).provider capability := by
  have rule := accepted.capability_rule some listed
  have resource := rule.fields.2.2.2
  have place : ((bundleOf data (headerOf data) order).capability (capability - 1)).word 12 4 - 1 <
      (headerOf data).resourceCount :=
    lt_of_lt_of_le (sub_one_lt resource.1) resource.2.1
  have source := rule.source root
  rw [Header.resources, recordAt_slice place] at source
  rcases source with ⟨-, held⟩ | ⟨provided, held | held⟩
  · exact .inl held
  · exact .inl held
  · exact .inr ⟨provided, held⟩

theorem Accepted.derived {capability : Nat} (some : 1 ≤ capability)
    (listed : capability ≤ (headerOf data).capabilityCount)
    (child : (bundleOf data (headerOf data) order).parent capability ≠ 0) :
    let bundle := bundleOf data (headerOf data) order
    bundle.parent capability < capability ∧ bundle.resourceId (bundle.parent capability) = bundle.resourceId capability ∧
      bundle.revokeGroup capability = bundle.revokeGroup (bundle.parent capability) ∧
      without (bundle.rights capability) (bundle.rights (bundle.parent capability)) = 0 := by
  have rule := accepted.capability_rule some listed
  have identity : ((bundleOf data (headerOf data) order).capability (capability - 1)).word 0 4 = capability :=
    rule.fields.1.trans (Nat.sub_add_cancel some)
  have earlier : (bundleOf data (headerOf data) order).parent capability < capability :=
    lt_of_lt_of_eq rule.parent identity
  have place : ((bundleOf data (headerOf data) order).capability (capability - 1)).word 4 4 - 1 <
      (headerOf data).capabilityCount :=
    lt_of_le_of_lt (sub_le ..) (lt_of_lt_of_le earlier listed)
  obtain ⟨⟨-, resource, rights⟩, group, -⟩ := rule.derived child
  rw [Header.capabilities, recordAt_slice place] at resource rights group
  exact ⟨earlier, resource, group, rights⟩

theorem Accepted.descends {capability steps : Nat}
    (rooted : (bundleOf data (headerOf data) order).Rooted capability steps) :
    ∀ step ≤ steps, (bundleOf data (headerOf data) order).parent^[step] capability ≤ capability
  | 0, _ => le_refl _
  | step + 1, within => by
      obtain ⟨some, listed⟩ := rooted.listed step (by omega)
      have before := Accepted.descends rooted step (by omega)
      rw [Function.iterate_succ_apply']
      by_cases root : (bundleOf data (headerOf data) order).parent
          ((bundleOf data (headerOf data) order).parent^[step] capability) = 0
      · omega
      · have earlier := (accepted.derived some listed root).1
        omega

/-- The parent of a capability has a smaller number, so that the links end. -/
theorem Accepted.rooted (capability : Nat) :
    1 ≤ capability → capability ≤ (headerOf data).capabilityCount →
      ∃ steps, (bundleOf data (headerOf data) order).Rooted capability steps := by
  induction capability using Nat.strong_induction_on with
  | _ capability ih =>
    intro some listed
    by_cases root : (bundleOf data (headerOf data) order).parent capability = 0
    · refine ⟨0, ?_, ?_, root, ?_, ?_, ?_, accepted.source some listed root⟩
      · intro step none
        obtain rfl := le_zero.mp none
        exact ⟨some, listed⟩
      · omega
      · intro step none
        rw [le_zero.mp none]
      · intro step none
        rw [le_zero.mp none]
      · intro step none
        rw [le_zero.mp none, without_self]
    · obtain ⟨earlier, resource, group, rights⟩ := accepted.derived some listed root
      obtain ⟨steps, above⟩ := ih _ earlier (pos_of_ne_zero root) (by omega)
      refine ⟨steps + 1, above.child some listed (fun step within => ?_) resource group rights⟩
      exact lt_of_le_of_lt (accepted.descends above step within) earlier

/-- The holder of what another service provides starts after it. -/
theorem Accepted.later {capability : Nat} (some : 1 ≤ capability)
    (listed : capability ≤ (headerOf data).capabilityCount)
    (provided : (bundleOf data (headerOf data) order).provider capability ≠ 0)
    (apart : (bundleOf data (headerOf data) order).provider capability ≠
      (bundleOf data (headerOf data) order).holder capability) : order.idxOf
    ((bundleOf data (headerOf data) order).provider capability) < order.idxOf
    ((bundleOf data (headerOf data) order).holder capability) := by
  have rule := accepted.capability_rule some listed
  have resource := rule.fields.2.2.2
  have place : ((bundleOf data (headerOf data) order).capability (capability - 1)).word 12 4 - 1 <
      (headerOf data).resourceCount :=
    lt_of_lt_of_le (sub_one_lt resource.1) resource.2.1
  have member : capabilityMetaOf ((bundleOf data (headerOf data) order).capability (capability - 1)) ∈
      (tablesOf data (headerOf data)).capabilities := by
    refine mem_records.mpr ⟨capability - 1, by omega, ?_⟩
    rw [Header.capabilities, recordAt_slice (by omega)]
    rfl
  have provider : ((tablesOf data (headerOf data)).resources.getD
      (((bundleOf data (headerOf data) order).capability (capability - 1)).word 12 4 - 1) emptyResource).provider =
        (bundleOf data (headerOf data) order).provider capability := by
    rw [tablesOf, records_getD place, Header.resources, recordAt_slice place]
    rfl
  have route := accepted.system.routes _ member
  unfold RouteRule at route
  dsimp only [capabilityMetaOf] at route
  rw [provider] at route
  exact (route provided apart).2

theorem Accepted.guaranteed :
    (bundleOf data (headerOf data) order).Guaranteed := by
  constructor
  · rw [accepted.started]
    exact accepted.follows
  · rw [accepted.started]
    exact accepted.first
  · intro rival follows
    rw [accepted.started]
    exact accepted.least follows
  · exact fun service listed => accepted.reachable listed
  · exact accepted.rooted
  · intro capability some listed provided apart
    rw [accepted.started]
    exact accepted.later some listed provided apart

end

end Accepted

section Sample

/-- The blob of the one component, and its digest. -/
def sampleBlob : Bytes := [1, 2, 3, 4]
def sampleBlobDigest : Nat := 0x6a806a9be8776c6e35c5b39fe701026f9b6c2947b4b6ab1f137fb9e147a7649f

/-- `ab`, `b`, `c`, `d` and `e`. -/
def sampleStrings : Bytes := [0x61, 0x62, 0, 0x62, 0, 0x63, 0, 0x64, 0, 0x65, 0]

def sampleService (service place length flags restart failure restarts rank : Nat) : Bytes :=
  let word := Bytes.ofWord
  word 4 service ++ word 4 1 ++ word 4 place ++ word 2 length ++ word 2 flags ++ word 4 100 ++ word 4 100 ++
    word 2 restart ++ word 2 failure ++ word 2 readinessExplicit ++ word 2 shutdownReverseDependency ++
    word 4 restarts ++ word 4 (1000 * restart) ++ word 4 (10 * restart) ++ word 4 (100 * restart) ++ word 4 50 ++
    word 4 1 ++ word 2 service ++ word 2 service ++ word 2 rank ++ word 2 rank ++ word 4 0 ++ word 28 0

def sampleResource (resource place kind flags maximum : Nat) : Bytes :=
  let word := Bytes.ofWord
  word 4 resource ++ word 4 resource ++ word 4 place ++ word 2 1 ++ word 2 kind ++ word 4 flags ++ word 4 0 ++
    word 8 1 ++ word 8 maximum ++ word 4 1 ++ word 4 0

def sampleCapability (capability parent holder resource rights flags group availability : Nat) : Bytes :=
  let word := Bytes.ofWord
  word 4 capability ++ word 4 parent ++ word 4 holder ++ word 4 resource ++ word 8 rights ++ word 4 flags ++
    word 4 group ++ word 4 0 ++ word 2 0 ++ word 2 availability ++ word 8 0

/-- A bundle of two services: the second one depends on the root service, holds a capability that is derived
from the one of the root service, and one on what it provides itself. The component is named `b`, at a place
of the string table. -/
def sampleBody (place : Nat) : Bytes :=
  let word := Bytes.ofWord
  word 4 1 ++ word 2 componentExecutable ++ word 2 7 ++ word 4 place ++ word 2 1 ++ word 2 0 ++ pxabi1 ++ word 4 0 ++
    word 4 4 ++ word 4 4096 ++ word 4 8 ++ word 32 sampleBlobDigest ++ word 8 0 ++
    sampleService 1 0 2 rootServiceFlags restartNever failureRollbackBundle 0 0 ++
    sampleService 2 5 1 (serviceAllowDegraded ||| serviceStateless) restartOnFailure failureContinueDegraded 3 1 ++
    word 4 2 ++ word 4 1 ++ word 2 dependencyStrong ++ word 2 0 ++ word 4 0 ++
    sampleResource 1 7 resourceEndpointSlots 11 4 ++ sampleResource 2 9 resourceMemoryPages 22 16 ++
    sampleCapability 1 0 1 1 15 11 1 availabilityRequired ++ sampleCapability 2 1 2 1 1 9 1 availabilityOptional ++
    sampleCapability 3 0 2 2 15 9 2 availabilityRequired ++ sampleStrings ++ word 5 0 ++ sampleBlob

def sampleBundle (place digest : Nat) : Bytes :=
  let word := Bytes.ofWord
  magic ++ word 2 majorVersion ++ word 2 minorVersion ++ word 2 headerBytes ++ word 2 recordAlignment ++ word 4 740 ++
    word 4 requiredFlags ++ word 8 1 ++ word 8 1 ++ word 4 1 ++ word 4 knownBootModes ++ word 2 1 ++ word 2 0 ++
    word 2 1 ++ word 2 0 ++ word 2 1 ++ word 2 2 ++ word 2 1 ++ word 2 2 ++ word 2 3 ++ word 2 0 ++ word 4 192 ++
    word 4 272 ++ word 4 464 ++ word 4 480 ++ word 4 576 ++ word 4 720 ++ word 4 11 ++ word 4 736 ++ word 4 4 ++
    word 4 1000 ++ word 4 1000 ++ word 4 3 ++ word 4 0 ++ word 32 digest ++ word 40 0 ++ sampleBody place

/-- The digests of the body, with the name of the component at its own place or inside `ab`. -/
def sampleDigest : Nat := 0x7c30174d3624a5063535126a08bcf081db6b586af3c852729151289de70afc0c
def misplacedDigest : Nat := 0xeb9167be60963ee7ed5714003e254ad4900a8de8f5eb2624b484a9bc0db50d1a

def sampleSha : Sha256 :=
  .ofTable [(sampleBlob, sampleBlobDigest), (sampleBody 3, sampleDigest), (sampleBody 1, misplacedDigest)]

end Sample

/-- What the native parser accepts keeps these guarantees. -/
theorem accepted_bundle_guaranteed (sha : Sha256) (data : Bytes) (bundle : Bundle)
    (parsed : parse sha data = .ok bundle) : bundle.Guaranteed := by
  obtain ⟨order, accepted, rfl⟩ := parse_eq_ok.mp parsed
  exact accepted.guaranteed

/-- The second service of the sample starts after the root service. -/
theorem sample_bundle_guaranteed : ∃ bundle, parse sampleSha (sampleBundle 3 sampleDigest) = .ok bundle ∧
    bundle.started = [1, 2] ∧ bundle.Guaranteed := by
  have accepted : (parse sampleSha (sampleBundle 3 sampleDigest)).map Bundle.started = .ok [1, 2] := by decide +kernel
  cases parsed : parse sampleSha (sampleBundle 3 sampleDigest) with
  | error reason =>
    rw [parsed] at accepted
    exact absurd accepted nofun
  | ok bundle =>
    rw [parsed] at accepted
    exact ⟨bundle, rfl, Except.ok.inj accepted, accepted_bundle_guaranteed _ _ bundle parsed⟩

end PooleOS.InitSys
