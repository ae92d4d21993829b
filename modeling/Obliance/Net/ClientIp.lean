import Obliance.Js.Number

/-!
# The address of a client behind proxies

`resolveClient` walks `X-Forwarded-For` from the right for as long as the current hop is a trusted proxy. Node's
`isIP` and the block list of the non-public ranges are parameters.

* `normalizeIp` : an entry without its port, its IPv4-mapped prefix and its zone;
* `hopsOf_append` : what stands left of a comma does not change the entries right of it;
* `walk_chain` : the walk through trusted forwarders ends at the address the last of them saw;
* `client_cannot_choose_its_address` : whatever a client writes left of the entries of trusted proxies.
-/

namespace Obliance.Net
open Js Numerals

/-! ## Addresses -/

def allDigits (cs : List Char) : Bool := cs.all isDigit && !cs.isEmpty

/-- `\d+\.\d+\.\d+\.\d+`, each group of at most `width` digits. -/
def isDotted (width : List Char → Bool) (cs : List Char) : Bool :=
  let groups := cs.splitOn '.'
  groups.length = 4 && groups.all fun group => allDigits group && width group

/-- `/^\[([^\]]+)\](?::\d+)?$/` -/
def bracketed : List Char → Option (List Char)
  | '[' :: cs =>
      let inner := cs.takeWhile (· ≠ ']')
      match cs.dropWhile (· ≠ ']') with
      | [']'] => if inner = [] then none else some inner
      | ']' :: ':' :: port => if inner = [] ∨ allDigits port = false then none else some inner
      | _ => none
  | _ => none

/-- `/^(\d{1,3}(?:\.\d{1,3}){3}):\d+$/` -/
def withPort (cs : List Char) : Option (List Char) :=
  let address := cs.takeWhile (· ≠ ':')
  match cs.dropWhile (· ≠ ':') with
  | ':' :: port => if isDotted (·.length ≤ 3) address && allDigits port then some address else none
  | _ => none

/-- "1.2.3.4:5678" / "[2001:db8::1]:443" (Azure, IIS ARR) -> bare address. -/
def stripPort (cs : List Char) : List Char := (bracketed cs).getD ((withPort cs).getD cs)

/-- `.replace(/^::ffff:(?=\d+\.\d+\.\d+\.\d+$)/i, '')` -/
def stripMapped : List Char → List Char
  | ':' :: ':' :: a :: b :: c :: d :: ':' :: cs =>
      if [a, b, c, d].all (fun ch => ch = 'f' || ch = 'F') && isDotted (fun _ => true) cs then cs
      else ':' :: ':' :: a :: b :: c :: d :: ':' :: cs
  | cs => cs

def isLineTerminator (c : Char) : Bool := c ∈ ['\n', '\r', '\u2028', '\u2029']

/-- `.replace(/%.*$/, '')` -/
def stripZone : List Char → List Char
  | [] => []
  | c :: cs => if c = '%' && !cs.any isLineTerminator then [] else c :: stripZone cs

/-- Strips the IPv4-mapped IPv6 prefix and an IPv6 zone id. -/
def normalizeIp (raw : Option String) : String :=
  String.ofList (stripZone (stripMapped (stripPort (strip isJsSpace (raw.getD "").toList))))

example : normalizeIp (some " [2001:db8::1]:443") = "2001:db8::1" := by decide
example : normalizeIp (some "::FFFF:10.0.0.7") = "10.0.0.7" := by decide

/-- What Node decides about an address: the family, 0 for none, and `NON_PUBLIC`'s list. -/
structure NodeNet where
  isIP : String → ℕ
  nonPublicHas : String → Bool
  isIP_empty : isIP "" = 0

/-- `NON_PUBLIC(addr)` -/
def NodeNet.nonPublic (net : NodeNet) (addr : String) : Bool :=
  net.isIP (normalizeIp (some addr)) ≠ 0 && net.nonPublicHas (normalizeIp (some addr))

/-! ## The walk -/

/-- The header as Node hands it over. -/
inductive ForwardedFor where
  | absent
  | text (header : String)
  | texts (headers : List String)

def ForwardedFor.header : ForwardedFor → String
  | absent => ""
  | text header => header
  | texts headers => ",".intercalate headers

/-- `hops`, the closest first. -/
def hopsOf (header : List Char) : List String :=
  (((header.splitOn ',').map fun entry => normalizeIp (some (String.ofList entry))).filter (· ≠ "")).reverse

structure Walked where
  current : String
  consumed : ℕ
  malformed : Bool
  hops : List String

section
variable (net : NodeNet) (trusted : String → Bool) (maxHops : ℤ)

/-- The loop of `resolveClient`, `hops` from the right. -/
def walk (current : String) (consumed : ℕ) : List String → Walked
  | [] => { current, consumed, malformed := false, hops := [] }
  | next :: hops =>
      if current ≠ "" ∧ trusted current ∧ consumed < maxHops then
        if net.isIP next = 0 then { current, consumed := consumed + 1, malformed := true, hops }
        else walk next (consumed + 1) hops
      else { current, consumed, malformed := false, hops := next :: hops }

structure ResolvedClient where
  ip : String
  relay : Bool
  untrustedForwarder : Bool
  deriving DecidableEq

def resolveClient (socketAddress : Option String) (forwardedFor : ForwardedFor) : ResolvedClient :=
  let walked := walk net trusted maxHops (normalizeIp socketAddress) 0 (hopsOf forwardedFor.header.toList)
  let forwarded := walked.malformed || !walked.hops.isEmpty
  if walked.current = "" ∨ trusted walked.current then
    { ip := walked.current, relay := true, untrustedForwarder := false }
  else
    let relay := forwarded && net.nonPublic walked.current
    { ip := walked.current, relay, untrustedForwarder := relay && decide (walked.consumed < maxHops) }

variable {net trusted maxHops}

theorem resolveClient_ip (socketAddress : Option String) (forwardedFor : ForwardedFor) :
    (resolveClient net trusted maxHops socketAddress forwardedFor).ip =
      (walk net trusted maxHops (normalizeIp socketAddress) 0 (hopsOf forwardedFor.header.toList)).current := by
  unfold resolveClient
  dsimp only
  split_ifs <;> rfl

/-- An untrusted hop ends the walk where it stands. -/
theorem walk_untrusted {current : String} (h : trusted current = false) (consumed : ℕ) (hops : List String) :
    (walk net trusted maxHops current consumed hops).current = current := by
  match hops with
  | [] => rfl
  | next :: hops => simp [walk, h]

/-- Trusted forwarders within the cap hand the walk on to the address the last of them saw. -/
theorem walk_chain {client : String} (hvalid : net.isIP client ≠ 0) (huntrusted : trusted client = false)
    (rest : List String) :
    ∀ {forwarders : List String} {current : String} {consumed : ℕ},
      current ≠ "" → trusted current = true → ↑(consumed + forwarders.length) < maxHops →
      (∀ hop ∈ forwarders, net.isIP hop ≠ 0 ∧ trusted hop = true) →
      (walk net trusted maxHops current consumed (forwarders ++ client :: rest)).current = client
  | [], current, consumed, hne, htrusted, hcap, _ => by
      have hcap : (consumed : ℤ) < maxHops := by simpa using hcap
      rw [List.nil_append, walk, if_pos ⟨hne, htrusted, hcap⟩, if_neg hvalid]
      exact walk_untrusted huntrusted _ _
  | hop :: forwarders, current, consumed, hne, htrusted, hcap, hhops => by
      have hcap' : (consumed : ℤ) < maxHops := by
        push_cast [List.length_cons] at hcap
        omega
      obtain ⟨hip, hhop⟩ := hhops hop List.mem_cons_self
      have hnext : hop ≠ "" := fun hempty => hip (hempty ▸ net.isIP_empty)
      rw [List.cons_append, walk, if_pos ⟨hne, htrusted, hcap'⟩, if_neg hip]
      apply walk_chain hvalid huntrusted rest hnext hhop
      · rw [List.length_cons] at hcap
        rwa [Nat.add_assoc, Nat.add_comm 1]
      · exact fun hop' hmem => hhops hop' (List.mem_cons_of_mem _ hmem)
end

/-! ## The header -/

theorem hopsOf_append (text entries : List Char) : hopsOf (text ++ ',' :: entries) = hopsOf entries ++ hopsOf text := by
  simp [hopsOf, List.splitOn_append_cons_self]

/-- The hops of entries that all say something. -/
theorem hopsOf_entries {entries : List String} (hne : entries ≠ [])
    (hcomma : ∀ entry ∈ entries, ',' ∉ entry.toList) (hsay : ∀ entry ∈ entries, normalizeIp (some entry) ≠ "") :
    hopsOf (",".intercalate entries).toList = (entries.map fun entry => normalizeIp (some entry)).reverse := by
  have hsplit : ((",".intercalate entries).toList).splitOn ',' = entries.map String.toList := by
    rw [String.toList_intercalate]
    apply List.splitOn_intercalate
    · simpa using hcomma
    · simpa using hne
  have hall : (entries.map fun entry => normalizeIp (some entry)).filter (· ≠ "") =
      entries.map fun entry => normalizeIp (some entry) := by
    apply List.filter_eq_self.2
    simpa using hsay
  rw [hopsOf, hsplit, List.map_map]
  simp only [Function.comp_def, String.ofList_toList]
  rw [hall]

/-- The header ends with these entries, whatever text stands left of them. -/
def ForwardedFor.EndsWith (forwardedFor : ForwardedFor) (entries : List String) : Prop :=
  (∀ entry ∈ entries, ',' ∉ entry.toList) ∧
    (forwardedFor.header = ",".intercalate entries ∨
      ∃ text, forwardedFor.header = text ++ "," ++ ",".intercalate entries)

theorem ForwardedFor.EndsWith.hops {forwardedFor : ForwardedFor} {entries : List String}
    (h : forwardedFor.EndsWith entries) (hne : entries ≠ [])
    (hsay : ∀ entry ∈ entries, normalizeIp (some entry) ≠ "") :
    ∃ rest, hopsOf forwardedFor.header.toList =
      (entries.map fun entry => normalizeIp (some entry)).reverse ++ rest := by
  obtain ⟨hcomma, hwhole | ⟨text, htext⟩⟩ := h
  · exact ⟨[], by rw [hwhole, hopsOf_entries hne hcomma hsay, List.append_nil]⟩
  · refine ⟨hopsOf text.toList, ?_⟩
    have hlist : (text ++ "," ++ ",".intercalate entries).toList =
        text.toList ++ ',' :: (",".intercalate entries).toList := by
      simp
    rw [htext, hlist, hopsOf_append, hopsOf_entries hne hcomma hsay]

/-- The socket peer and the `forwarders` are proxies this process trusts, and the farthest of them saw `client`. -/
structure Chain (net : NodeNet) (trusted : String → Bool) (socketAddress : Option String) (client : String)
    (forwarders : List String) : Prop where
  peer_ne : normalizeIp socketAddress ≠ ""
  peer : trusted (normalizeIp socketAddress) = true
  forwarder : ∀ hop ∈ forwarders, net.isIP (normalizeIp (some hop)) ≠ 0 ∧ trusted (normalizeIp (some hop)) = true
  valid : net.isIP (normalizeIp (some client)) ≠ 0
  untrusted : trusted (normalizeIp (some client)) = false

theorem Chain.entries_say {net : NodeNet} {trusted : String → Bool} {socketAddress : Option String} {client : String}
    {forwarders : List String} (h : Chain net trusted socketAddress client forwarders) :
    ∀ entry ∈ client :: forwarders, normalizeIp (some entry) ≠ "" := by
  intro entry hentry hempty
  have hvalid : net.isIP (normalizeIp (some entry)) ≠ 0 := by
    rcases List.mem_cons.1 hentry with rfl | hmem
    · exact h.valid
    · exact (h.forwarder entry hmem).1
  exact hvalid (hempty ▸ net.isIP_empty)

/-- The client of a chain within the hop cap resolves to the entry its proxy wrote, whatever precedes that entry;
behind a peer that is not trusted the header counts for nothing. -/
theorem client_cannot_choose_its_address (net : NodeNet) (trusted : String → Bool) (maxHops : ℤ)
    (socketAddress : Option String) :
    (∀ (client : String) (forwarders : List String) (forwardedFor : ForwardedFor),
        Chain net trusted socketAddress client forwarders → ↑(client :: forwarders).length ≤ maxHops →
        forwardedFor.EndsWith (client :: forwarders) →
        (resolveClient net trusted maxHops socketAddress forwardedFor).ip = normalizeIp (some client)) ∧
      (trusted (normalizeIp socketAddress) = false →
        ∀ forwardedFor : ForwardedFor,
          (resolveClient net trusted maxHops socketAddress forwardedFor).ip = normalizeIp socketAddress) := by
  refine ⟨fun client forwarders forwardedFor hchain hcap hheader => ?_, fun huntrusted forwardedFor => ?_⟩
  · obtain ⟨rest, hhops⟩ := hheader.hops (List.cons_ne_nil _ _) hchain.entries_say
    rw [resolveClient_ip, hhops, List.map_cons, List.reverse_cons, List.append_assoc, List.singleton_append]
    apply walk_chain hchain.valid hchain.untrusted rest hchain.peer_ne hchain.peer
    · rw [List.length_reverse, List.length_map]
      push_cast [List.length_cons] at hcap ⊢
      omega
    · simpa using hchain.forwarder
  · rw [resolveClient_ip]
    exact walk_untrusted huntrusted _ _

/-- An edge proxy at 10.0.0.7 behind an nginx at 172.18.0.2. -/
def edgeNet : NodeNet where
  isIP addr := if addr ∈ ["172.18.0.2", "10.0.0.7", "203.0.113.9", "8.8.8.8"] then 4 else 0
  nonPublicHas addr := addr ∈ ["172.18.0.2", "10.0.0.7"]
  isIP_empty := by decide

theorem forged_entries_ignored :
    (resolveClient edgeNet (· ∈ ["172.18.0.2", "10.0.0.7"]) 2 (some "::ffff:172.18.0.2")
        (.text "8.8.8.8, 10.0.0.7,, bogus, 203.0.113.9:4711, 10.0.0.7")).ip = "203.0.113.9" ∧
      (resolveClient edgeNet (· ∈ ["172.18.0.2", "10.0.0.7"]) 2 (some "203.0.113.9") (.text "8.8.8.8")).ip =
        "203.0.113.9" := by
  have hchain : Chain edgeNet (· ∈ ["172.18.0.2", "10.0.0.7"]) (some "::ffff:172.18.0.2") " 203.0.113.9:4711"
      [" 10.0.0.7"] := ⟨by decide, by decide, by decide, by decide, by decide⟩
  have hheader : (ForwardedFor.text "8.8.8.8, 10.0.0.7,, bogus, 203.0.113.9:4711, 10.0.0.7").EndsWith
      [" 203.0.113.9:4711", " 10.0.0.7"] := ⟨by decide, .inr ⟨"8.8.8.8, 10.0.0.7,, bogus", by decide⟩⟩
  refine ⟨?_, ?_⟩
  · rw [(client_cannot_choose_its_address edgeNet _ 2 _).1 _ _ _ hchain (by decide) hheader]
    decide
  · rw [(client_cannot_choose_its_address edgeNet (· ∈ ["172.18.0.2", "10.0.0.7"]) 2 (some "203.0.113.9")).2
      (by decide)]
    decide

end Obliance.Net
