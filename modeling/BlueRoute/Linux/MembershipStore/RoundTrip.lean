import BlueRoute.Linux.MembershipStore

namespace blueroute_linux.membership_store

open blueroute Fallible NetworkMembership MembershipRegistry

/-- A state that may be kept in the file. -/
def DurableState (state : MembershipState) : Prop := state = .NotMember ∨ state = .Member

structure DurableNetwork (membership : NetworkMembership) : Prop where
  network_id : membership.network_id ≠ .filled 0
  state : DurableState membership.state
  peers : ∀ (node : NodeId) (peer : PeerMembership), membership.peers[node]? = some peer → node ≠ .filled 0

/-- A registry that may be kept in the file: its identifiers are not all zero and its states are stable. -/
def Durable (registry : MembershipRegistry) : Prop :=
  ∀ (network : NetworkId) (membership : NetworkMembership),
    registry.network network = some membership → DurableNetwork membership

section Fields

theorem decode_hex_encode_hex (values : List UInt8) (line_number : Nat) :
    decode_hex (encode_hex values) line_number = .ok values := by
  simp only [decode_hex, encode_hex, bind_eq_ok_iff, reject_if_eq_ok, ok_or_eq_ok, Text.length_bytes_hex]
  exact ⟨(), by omega, Text.pairs_bytes_hex (fun _ => Id.decode_nibble_digit_byte) values⟩

theorem parse_id_to_string {kind : IdKind} (id : Id kind) (line_number : Nat) (message : String) :
    parse_id id.to_string line_number message = .ok id := by
  rw [parse_id, mapError_eq_ok]
  exact Id.parse_to_string id

theorem parse_bool_bool_code (value : Bool) (line_number : Nat) :
    parse_bool (bool_code value) line_number = .ok value := by
  cases value <;> rfl

/-- The code of a stable state. -/
def stable_code : MembershipState → String
  | .Member => "member"
  | _ => "not-member"

variable {state : MembershipState} {c : Char} {line_number : Nat}

theorem durable_state_code_eq (h : DurableState state) : durable_state_code state = .ok (stable_code state) := by
  obtain rfl | rfl := h <;> rfl

theorem parse_durable_state_stable_code (h : DurableState state) (line_number : Nat) :
    parse_durable_state (stable_code state) line_number = .ok state := by
  obtain rfl | rfl := h <;> rfl

/-- The characters between the fields and at the ends of the lines. -/
def Separates (c : Char) : Prop := c = '\t' ∨ c = '\n' ∨ c = '\r'

theorem Separates.ne_digit (h : Separates c) (n : Fin 16) : c ≠ Nat.digitChar n := by
  revert n
  obtain rfl | rfl | rfl := h <;> decide

theorem Separates.notMem_stable_code (h : Separates c) (state : MembershipState) :
    c ∉ (stable_code state).toList := by
  obtain rfl | rfl | rfl := h <;> cases state <;> decide

theorem Separates.notMem_bool_code (h : Separates c) (flag : Bool) : c ∉ (bool_code flag).toList := by
  obtain rfl | rfl | rfl := h <;> cases flag <;> decide

theorem Separates.notMem_to_string (h : Separates c) {kind : IdKind} (id : Id kind) : c ∉ id.to_string.toList :=
  Id.notMem_to_string h.ne_digit id

theorem Separates.notMem_encode_hex (h : Separates c) (values : List UInt8) : c ∉ (encode_hex values).toList := by
  rw [encode_hex, String.toList_ofList]
  exact Text.notMem_hex h.ne_digit values

theorem separates_tab : Separates '\t' := .inl rfl

theorem parse_durable_state_eq_ok {value : String} (h : parse_durable_state value line_number = .ok state) :
    DurableState state ∧ (value = "not-member" ∨ value = "member") := by
  unfold parse_durable_state at h
  split at h
  · rename_i hvalue
    exact ⟨.inl (Except.ok.inj h).symm, .inl hvalue⟩
  · split at h
    · rename_i hvalue
      exact ⟨.inr (Except.ok.inj h).symm, .inr hvalue⟩
    · cases h

theorem parse_bool_eq_ok {value : String} {flag : Bool} (h : parse_bool value line_number = .ok flag) :
    value = "0" ∨ value = "1" := by
  unfold parse_bool at h
  split at h
  · rename_i hvalue
    exact .inl hvalue
  · split at h
    · rename_i hvalue
      exact .inr hvalue
    · cases h

theorem required_field_eq_ok {fields : List String} {name : String} {taken : String × List String} :
    required_field fields line_number name = .ok taken ↔ fields = taken.1 :: taken.2 := by
  cases fields with
  | nil => simp [required_field]
  | cons field rest => simp [required_field, Prod.ext_iff, eq_comm]

end Fields

section Records

variable {registry registry' : MembershipRegistry} {membership : NetworkMembership} {line : String} {line_number : Nat}

/-- What a record of the file adds to the registry. -/
inductive Declares (registry : MembershipRegistry) : MembershipRegistry → Prop
  | network {membership : NetworkMembership} (hid : membership.network_id ≠ .filled 0)
      (hstate : DurableState membership.state) (hpeers : membership.peers = ∅)
      (hnew : registry.network membership.network_id = none) : Declares registry (registry.remember_network membership)
  | peer {membership : NetworkMembership} {peer : PeerMembership}
      (hknown : registry.network membership.network_id = some membership) (hid : peer.node_id ≠ .filled 0)
      (hnew : membership.peers[peer.node_id]? = none) :
      Declares registry (registry.remember_network (membership.set_peer peer))

theorem Declares.durable (h : Declares registry registry') (hdurable : Durable registry) : Durable registry' := by
  intro network found hfound
  cases h with
  | network hid hstate hpeers hnew =>
    rw [network_remember_network] at hfound
    split at hfound
    · obtain rfl := Option.some.inj hfound
      exact ⟨hid, hstate, by simp [hpeers]⟩
    · exact hdurable network found hfound
  | peer hknown hid hnew =>
    rw [network_remember_network] at hfound
    split at hfound
    · obtain rfl := Option.some.inj hfound
      have hold := hdurable _ _ hknown
      refine ⟨hold.network_id, hold.state, fun node entry hentry => ?_⟩
      rw [set_peer, Ordered.getElem?_insert_eq] at hentry
      split at hentry
      · rename_i hnode
        exact hnode ▸ hid
      · exact hold.peers node entry hentry
    · exact hdurable network found hfound

/-- The three calls that a record of an unknown peer makes write its entry. -/
theorem add_peer_eq {node_id : NodeId} (hnew : membership.peers[node_id]? = none) (member trusted : Bool) :
    add_peer membership node_id member trusted = membership.set_peer { node_id, member, trusted } := by
  have hunknown : membership.is_peer_known node_id = false := by
    rw [is_peer_known, Std.ExtTreeMap.contains_eq_isSome_getElem?, hnew]
    rfl
  have hremember : (membership.remember_peer node_id).2 = membership.set_peer (.new node_id) := by
    rw [remember_peer, hunknown]
    rfl
  have hentry : ∀ peer : PeerMembership, peer.node_id = node_id → (membership.set_peer peer).entry node_id = peer :=
    fun _ => entry_set_peer membership
  have hmember : ((membership.set_peer (.new node_id)).set_peer_member node_id member).2 =
      membership.set_peer { node_id, member, trusted := false } := by
    rw [set_peer_member, hentry _ rfl]
    exact set_peer_set_peer _ rfl
  rw [add_peer, hremember, hmember]
  cases trusted with
  | false => rfl
  | true =>
    rw [if_pos rfl, trust_peer, hentry _ rfl]
    exact set_peer_set_peer _ rfl

theorem is_peer_known_eq_true {node_id : NodeId} :
    membership.is_peer_known node_id = true ↔ membership.peers[node_id]? ≠ none := by
  rw [is_peer_known, Std.ExtTreeMap.contains_eq_isSome_getElem?, Option.isSome_iff_ne_none]

theorem return_byte : (13 : UInt8) ∈ String.utf8EncodeChar '\r' := by
  decide

/-- What an accepted record of a network adds, and that none of its fields has a carriage return. -/
theorem parse_network_record_eq_ok {fields rest : List String}
    (h : parse_network_record registry fields line_number = .ok (registry', rest)) :
    Declares registry registry' ∧ ∃ taken, fields = taken ++ rest ∧ ∀ field ∈ taken, '\r' ∉ field.toList := by
  simp only [parse_network_record, bind_eq_ok_iff, required_field_eq_ok, parse_id, mapError_eq_ok, reject_if_eq_ok,
    ok_or_eq_ok, Prod.exists] at h
  obtain ⟨value, fields₁, rfl, id, hid, _, hnonzero, _, hnew, code, fields₂, rfl, state, hstate, encoded, fields₃, rfl,
    bytes, hbytes, name, _, display_name, _, hresult⟩ := h
  obtain ⟨rfl, rfl⟩ := Prod.mk.inj (Except.ok.inj hresult)
  obtain ⟨hdurable, hcode⟩ := parse_durable_state_eq_ok hstate
  simp only [decode_hex, bind_eq_ok_iff, ok_or_eq_ok] at hbytes
  obtain ⟨_, _, hpairs⟩ := hbytes
  refine ⟨.network hnonzero hdurable rfl (Option.not_isSome_iff_eq_none.mp hnew), [value, code, encoded], rfl, ?_⟩
  simp only [List.mem_cons, List.not_mem_nil, or_false, forall_eq_or_imp, forall_eq]
  refine ⟨Id.notMem_of_parse hid return_byte (by decide), ?_,
    Text.notMem_of_pairs hpairs return_byte (by decide)⟩
  obtain rfl | rfl := hcode <;> decide

/-- What an accepted record of a peer adds, and that none of its fields has a carriage return. -/
theorem parse_peer_record_eq_ok {fields rest : List String}
    (h : parse_peer_record registry fields line_number = .ok (registry', rest)) :
    Declares registry registry' ∧ ∃ taken, fields = taken ++ rest ∧ ∀ field ∈ taken, '\r' ∉ field.toList := by
  simp only [parse_peer_record, bind_eq_ok_iff, required_field_eq_ok, parse_id, mapError_eq_ok, reject_if_eq_ok,
    ok_or_eq_ok, Prod.exists] at h
  obtain ⟨value, fields₁, rfl, network_id, hid, node, fields₂, rfl, node_id, hnode, _, hnonzero, member_code, fields₃,
    rfl, member, hmember, trust_code, fields₄, rfl, trusted, htrusted, membership, hknown, _, hnew, hresult⟩ := h
  obtain ⟨rfl, rfl⟩ := Prod.mk.inj (Except.ok.inj hresult)
  rw [is_peer_known_eq_true, not_not] at hnew
  obtain rfl := registry.keyed _ _ hknown
  refine ⟨?_, [value, node, member_code, trust_code], rfl, ?_⟩
  · rw [add_peer_eq hnew]
    exact .peer hknown (not_or.mp hnonzero).2 hnew
  simp only [List.mem_cons, List.not_mem_nil, or_false, forall_eq_or_imp, forall_eq]
  refine ⟨Id.notMem_of_parse hid return_byte (by decide),
    Id.notMem_of_parse hnode return_byte (by decide), ?_, ?_⟩
  · obtain rfl | rfl := parse_bool_eq_ok hmember <;> decide
  · obtain rfl | rfl := parse_bool_eq_ok htrusted <;> decide

/-- An accepted line adds a network or a peer, and has no carriage return. -/
theorem parse_line_eq_ok (h : parse_line registry (line, line_number) = .ok registry') :
    Declares registry registry' ∧ '\r' ∉ line.toList := by
  simp only [parse_line, bind_eq_ok_iff, reject_if_eq_ok, ne_eq, not_not, Prod.exists] at h
  obtain ⟨_, _, next, rest, hrecord, _, rfl, hresult⟩ := h
  obtain rfl := Except.ok.inj hresult
  unfold parse_record at hrecord
  split at hrecord
  · cases hrecord
  rename_i record_type fields hfields
  obtain ⟨hdeclares, taken, htaken, hclean, htype⟩ :
      Declares registry next ∧ ∃ taken, fields = taken ++ [] ∧ (∀ field ∈ taken, '\r' ∉ field.toList) ∧
        '\r' ∉ record_type.toList := by
    split at hrecord
    · rename_i htype
      obtain ⟨hdeclares, taken, htaken, hclean⟩ := parse_network_record_eq_ok hrecord
      exact ⟨hdeclares, taken, htaken, hclean, by rw [htype]; decide⟩
    · split at hrecord
      · rename_i htype
        obtain ⟨hdeclares, taken, htaken, hclean⟩ := parse_peer_record_eq_ok hrecord
        exact ⟨hdeclares, taken, htaken, hclean, by rw [htype]; decide⟩
      · cases hrecord
  refine ⟨hdeclares, fun hreturn => ?_⟩
  obtain ⟨field, hfield, hin⟩ := Text.exists_mem_split hreturn (show '\r' ≠ '\t' by decide)
  rw [hfields, htaken, List.append_nil, List.mem_cons] at hfield
  obtain rfl | hfield := hfield
  · exact htype hin
  · exact hclean field hfield hin

theorem split_network_record (membership : NetworkMembership) (state : MembershipState) :
    Text.split '\t' (network_record membership (stable_code state)) =
      ["network", membership.network_id.to_string, stable_code state,
        encode_hex (Text.bytes membership.network_name.as_str)] := by
  have hfields : network_record membership (stable_code state) = String.ofList (['\t'].intercalate
      (["network", membership.network_id.to_string, stable_code state,
        encode_hex (Text.bytes membership.network_name.as_str)].map String.toList)) := by
    rw [← String.toList_inj, String.toList_ofList]
    simp [network_record, List.intercalate]
  rw [hfields, Text.split_intercalate (by simp)]
  simp only [List.mem_cons, List.not_mem_nil, or_false, forall_eq_or_imp, forall_eq]
  exact ⟨by decide, separates_tab.notMem_to_string _, separates_tab.notMem_stable_code _,
    separates_tab.notMem_encode_hex _⟩

theorem split_peer_record (network_id : NetworkId) (peer : PeerMembership) :
    Text.split '\t' (peer_record network_id peer) =
      ["peer", network_id.to_string, peer.node_id.to_string, bool_code peer.member, bool_code peer.trusted] := by
  have hfields : peer_record network_id peer = String.ofList (['\t'].intercalate
      (["peer", network_id.to_string, peer.node_id.to_string, bool_code peer.member,
        bool_code peer.trusted].map String.toList)) := by
    rw [← String.toList_inj, String.toList_ofList]
    simp [peer_record, List.intercalate]
  rw [hfields, Text.split_intercalate (by simp)]
  simp only [List.mem_cons, List.not_mem_nil, or_false, forall_eq_or_imp, forall_eq]
  exact ⟨by decide, separates_tab.notMem_to_string _, separates_tab.notMem_to_string _,
    separates_tab.notMem_bool_code _, separates_tab.notMem_bool_code _⟩

theorem ne_empty_of_split {line first second : String} {rest : List String} {separator : Char}
    (h : Text.split separator line = first :: second :: rest) : line ≠ "" := by
  rintro rfl
  simp [Text.split] at h

/-- What the record of a network says about it. -/
def without_peers (membership : NetworkMembership) : NetworkMembership :=
  { new membership.network_id membership.network_name with state := membership.state }

/-- The record of a network that is not in the registry yet adds it without its peers. -/
theorem parse_line_network_record (hdurable : DurableNetwork membership)
    (hnew : registry.network membership.network_id = none) :
    parse_line registry (network_record membership (stable_code membership.state), line_number) =
      .ok (registry.remember_network (without_peers membership)) := by
  have hsplit := split_network_record membership membership.state
  simp only [parse_line, bind_eq_ok_iff, reject_if_eq_ok, Prod.exists]
  refine ⟨(), ne_empty_of_split hsplit, _, [], ?_, (), not_not.mpr rfl, rfl⟩
  rw [hsplit, parse_record, if_pos rfl]
  simp only [parse_network_record, bind_eq_ok_iff, required_field_eq_ok, mapError_eq_ok, reject_if_eq_ok, ok_or_eq_ok,
    Prod.exists]
  exact ⟨_, _, rfl, _, parse_id_to_string _ _ _, (), hdurable.network_id, (), by simp [hnew], _, _, rfl, _,
    parse_durable_state_stable_code hdurable.state _, _, _, rfl, _, decode_hex_encode_hex _ _, _,
    Text.from_utf8_bytes _, _, DisplayName.new_as_str _, rfl⟩

/-- The record of a peer that its network does not know yet adds it. -/
theorem parse_line_peer_record {peer : PeerMembership} (hnetwork : membership.network_id ≠ .filled 0)
    (hknown : registry.network membership.network_id = some membership) (hid : peer.node_id ≠ .filled 0)
    (hnew : membership.peers[peer.node_id]? = none) :
    parse_line registry (peer_record membership.network_id peer, line_number) =
      .ok (registry.remember_network (membership.set_peer peer)) := by
  have hsplit := split_peer_record membership.network_id peer
  simp only [parse_line, bind_eq_ok_iff, reject_if_eq_ok, Prod.exists]
  refine ⟨(), ne_empty_of_split hsplit, _, [], ?_, (), not_not.mpr rfl, rfl⟩
  rw [hsplit, parse_record, if_neg (by decide), if_pos rfl]
  simp only [parse_peer_record, bind_eq_ok_iff, required_field_eq_ok, reject_if_eq_ok, ok_or_eq_ok, Prod.exists]
  refine ⟨_, _, rfl, _, parse_id_to_string _ _ _, _, _, rfl, _, parse_id_to_string _ _ _, (),
    not_or.mpr ⟨hnetwork, hid⟩, _, _, rfl, _, parse_bool_bool_code _ _, _, _, rfl, _, parse_bool_bool_code _ _, _,
      hknown, (), ?_, ?_⟩
  · rw [is_peer_known_eq_true, not_not]
    exact hnew
  · rw [add_peer_eq hnew]
    rfl

end Records

section Documents

variable {registry registry' middle target built : MembershipRegistry} {membership : NetworkMembership}
  {line : String} {records more : List String}

/-- The records lead from one registry to another, wherever they stand in the document. -/
def Reads (registry : MembershipRegistry) (records : List String) (registry' : MembershipRegistry) : Prop :=
  ∀ start, (records.zipIdx start).foldlM parse_line registry = .ok registry'

theorem Reads.nil : Reads registry [] registry := fun _ => rfl

theorem Reads.cons (hline : ∀ line_number, parse_line registry (line, line_number) = .ok middle)
    (h : Reads middle records registry') : Reads registry (line :: records) registry' := by
  intro start
  rw [List.zipIdx_cons, foldlM_cons_eq_ok_iff]
  exact ⟨middle, hline start, h (start + 1)⟩

theorem Reads.append (h : Reads registry records middle) (hmore : Reads middle more registry') :
    Reads registry (records ++ more) registry' := by
  intro start
  rw [List.zipIdx_append, List.foldlM_append, bind_eq_ok_iff]
  exact ⟨middle, h start, hmore _⟩

/-- The records of the peers that a network still misses complete it. -/
theorem reads_peers (hdurable : DurableNetwork membership) {part : NetworkMembership}
    (hid : part.network_id = membership.network_id) (hname : part.network_name = membership.network_name)
    (hstate : part.state = membership.state) {rest : List (NodeId × PeerMembership)}
    (h : Ordered.Rebuilds membership.peers part.peers rest) :
    Reads (registry.remember_network part) ((rest.map Prod.snd).map (peer_record membership.network_id))
      (registry.remember_network membership) := by
  induction rest generalizing part with
  | nil =>
    rw [ext_peers hid hname hstate h.built_eq]
    exact .nil
  | cons entry rest ih =>
    obtain ⟨node, peer⟩ := entry
    obtain rfl := membership.peers_keyed node peer h.head_lookup
    have hknown : (registry.remember_network part).network part.network_id = some part := by simp
    have hline : ∀ line_number, parse_line (registry.remember_network part)
        (peer_record membership.network_id peer, line_number) =
          .ok (registry.remember_network (part.set_peer peer)) := by
      intro line_number
      rw [← remember_network_remember_network registry
        (show part.network_id = (part.set_peer peer).network_id from rfl), ← hid]
      exact parse_line_peer_record (hid ▸ hdurable.network_id) hknown (hdurable.peers _ _ h.head_lookup) h.head_missing
    exact .cons hline (ih hid hname hstate h.step)

/-- The records of a network. -/
def network_lines (membership : NetworkMembership) : List String :=
  network_record membership (stable_code membership.state) ::
    (membership.peers.toList.map Prod.snd).map (peer_record membership.network_id)

theorem reads_network (hdurable : DurableNetwork membership) (hnew : registry.network membership.network_id = none) :
    Reads registry (network_lines membership) (registry.remember_network membership) := by
  refine .cons (fun _ => parse_line_network_record hdurable hnew) ?_
  have hid : (without_peers membership).network_id = membership.network_id := rfl
  exact reads_peers hdurable hid rfl rfl (Ordered.Rebuilds.start membership.peers)

/-- The records of the networks that a registry still misses complete it. -/
theorem reads_networks (hdurable : Durable target) {rest : List (NetworkId × NetworkMembership)}
    (h : Ordered.Rebuilds target.entries built.entries rest) :
    Reads built ((rest.map Prod.snd).flatMap network_lines) target := by
  induction rest generalizing built with
  | nil =>
    rw [ext_entries h.built_eq]
    exact .nil
  | cons entry rest ih =>
    obtain ⟨network, membership⟩ := entry
    obtain rfl := target.keyed network membership h.head_lookup
    exact (reads_network (hdurable _ _ h.head_lookup) h.head_missing).append (ih h.step)

theorem serialize_network_eq (hdurable : DurableNetwork membership) :
    serialize_network membership = .ok (network_lines membership) := by
  simp only [serialize_network, bind_eq_ok_iff, reject_if_eq_ok]
  refine ⟨(), hdurable.network_id, _, durable_state_code_eq hdurable.state, _, mapM_eq_ok_map fun peer hpeer => ?_, rfl⟩
  obtain ⟨⟨node, entry⟩, hentry, rfl⟩ := List.mem_map.mp hpeer
  have hlookup := Ordered.mem_toList.mp hentry
  simp only [serialize_peer, bind_eq_ok_iff, reject_if_eq_ok]
  exact ⟨(), membership.peers_keyed _ _ hlookup ▸ hdurable.peers _ _ hlookup, rfl⟩

/-- The lines of the file of a registry. -/
def document (registry : MembershipRegistry) : List String :=
  format_header CURRENT_FORMAT_VERSION :: registry.networks.flatMap network_lines

theorem serialize_registry_eq (hdurable : Durable registry) :
    serialize_registry registry = .ok (Text.unlines (document registry)) := by
  have hnetworks : registry.networks.mapM serialize_network = .ok (registry.networks.map network_lines) :=
    mapM_eq_ok_map fun _ hmembership => serialize_network_eq
      (hdurable _ _ (mem_networks.mp hmembership))
  rw [serialize_registry, hnetworks, document, List.flatMap_def]
  rfl

theorem notMem_network_lines {c : Char} (h : Separates c) (htab : c ≠ '\t') (hline : line ∈ network_lines membership) :
    c ∉ line.toList := by
  have hend : c = '\n' ∨ c = '\r' := h.resolve_left htab
  have hnetwork : c ∉ "network\t".toList := by
    obtain rfl | rfl := hend <;> decide
  have hpeer : c ∉ "peer\t".toList := by
    obtain rfl | rfl := hend <;> decide
  have hseparator : c ∉ "\t".toList := by simpa using htab
  obtain rfl | hline := List.mem_cons.mp hline
  · simp only [network_record, String.toList_append, List.mem_append, not_or]
    exact ⟨⟨⟨⟨⟨hnetwork, h.notMem_to_string _⟩, hseparator⟩, h.notMem_stable_code _⟩, hseparator⟩,
      h.notMem_encode_hex _⟩
  · obtain ⟨peer, _, rfl⟩ := List.mem_map.mp hline
    simp only [peer_record, String.toList_append, List.mem_append, not_or]
    exact ⟨⟨⟨⟨⟨⟨⟨hpeer, h.notMem_to_string _⟩, hseparator⟩, h.notMem_to_string _⟩, hseparator⟩,
      h.notMem_bool_code _⟩, hseparator⟩, h.notMem_bool_code _⟩

theorem lines_document (registry : MembershipRegistry) :
    Text.lines (Text.unlines (document registry)) = document registry := by
  apply Text.lines_unlines
  simp only [document, List.mem_cons, List.mem_flatMap, forall_eq_or_imp, forall_exists_index, and_imp]
  refine ⟨by decide, ?_⟩
  intro line membership _ hline
  exact ⟨notMem_network_lines (.inr (.inl rfl)) (by decide) hline,
    notMem_network_lines (.inr (.inr rfl)) (by decide) hline⟩

theorem parse_registry_of_lines {text : String}
    (h : Text.lines text = format_header CURRENT_FORMAT_VERSION :: records) :
    parse_registry text = parse_records records := by
  rw [parse_registry, h]
  rfl

theorem parse_registry_document (hdurable : Durable registry) :
    parse_registry (Text.unlines (document registry)) = .ok registry := by
  rw [parse_registry_of_lines (lines_document registry)]
  have hstart : Ordered.Rebuilds registry.entries default.entries registry.entries.toList :=
    Ordered.Rebuilds.start registry.entries
  exact reads_networks hdurable hstart 2

/-- What accepted records lead to may be kept in the file, and none of them has a carriage return. -/
theorem foldlM_parse_line {start : Nat} (h : (records.zipIdx start).foldlM parse_line registry = .ok registry')
    (hdurable : Durable registry) : Durable registry' ∧ ∀ line ∈ records, '\r' ∉ line.toList := by
  induction records generalizing registry start with
  | nil =>
    obtain rfl := Except.ok.inj h
    exact ⟨hdurable, fun _ hline => absurd hline List.not_mem_nil⟩
  | cons line records ih =>
    rw [List.zipIdx_cons, foldlM_cons_eq_ok_iff] at h
    obtain ⟨middle, hline, hrest⟩ := h
    obtain ⟨hdeclares, hclean⟩ := parse_line_eq_ok hline
    obtain ⟨hdurable', hrecords⟩ := ih hrest (hdeclares.durable hdurable)
    exact ⟨hdurable', List.forall_mem_cons.mpr ⟨hclean, hrecords⟩⟩

theorem parse_records_eq_ok (h : parse_records records = .ok registry) :
    Durable registry ∧ ∀ line ∈ records, '\r' ∉ line.toList :=
  foldlM_parse_line h fun _ _ hfound => by simp [MembershipRegistry.network, MembershipRegistry.default] at hfound

end Documents

section Versions

variable {text text₁ text₂ : String} {records : List String} {registry : MembershipRegistry}

theorem detect_format_version_legacy (h : Text.lines text = format_header LEGACY_FORMAT_VERSION :: records) :
    detect_format_version text = .ok LEGACY_FORMAT_VERSION := by
  rw [detect_format_version, h]
  rfl

theorem detect_format_version_current (h : Text.lines text = format_header CURRENT_FORMAT_VERSION :: records) :
    detect_format_version text = .ok CURRENT_FORMAT_VERSION := by
  rw [detect_format_version, h]
  rfl

/-- A current document is read as it stands. -/
theorem parse_document_current (h : Text.lines text = format_header CURRENT_FORMAT_VERSION :: records) :
    parse_document text = parse_records records := by
  have hmigrate : migrate_to_current text = .ok { serialized := text, migrated := false } := by
    rw [migrate_to_current, detect_format_version_current h]
    rfl
  rw [parse_document, hmigrate, ← parse_registry_of_lines h]
  rfl

/-- The records as they stand in a migrated document: the lines are written anew, so that a carriage return at
their ends becomes a part of the line end. -/
def rewritten (records : List String) : List String :=
  records.map fun line => String.ofList (Text.strip_return line.toList)

theorem parse_registry_migrated (h : Text.lines text = format_header LEGACY_FORMAT_VERSION :: records) :
    parse_registry (Text.unlines (format_header CURRENT_FORMAT_VERSION :: records)) = parse_records
      (rewritten records) := by
  apply parse_registry_of_lines
  refine (Text.lines_unlines_eq_map ?_).trans rfl
  refine List.forall_mem_cons.mpr ⟨by decide, fun line hline => ?_⟩
  exact Text.notMem_of_mem_lines (h ▸ List.mem_cons_of_mem _ hline)

theorem migrate_v1_to_v2_eq_ok (h : Text.lines text = format_header LEGACY_FORMAT_VERSION :: records)
    {migrated : String} :
    migrate_v1_to_v2 text = .ok migrated ↔
      (∃ registry, parse_records (rewritten records) = .ok registry) ∧
        migrated = Text.unlines (format_header CURRENT_FORMAT_VERSION :: records) := by
  simp only [migrate_v1_to_v2, h, List.head?_cons, List.tail_cons, parse_registry_migrated h, bind_eq_ok_iff,
    reject_if_eq_ok, ne_eq, not_true_eq_false, not_false_eq_true, true_and, exists_const]
  constructor
  · rintro ⟨registry, hrecords, hmigrated⟩
    exact ⟨⟨registry, hrecords⟩, (Except.ok.inj hmigrated).symm⟩
  · rintro ⟨⟨registry, hrecords⟩, rfl⟩
    exact ⟨registry, hrecords, rfl⟩

theorem migrate_to_current_legacy (h : Text.lines text = format_header LEGACY_FORMAT_VERSION :: records)
    {migration : MigrationResult} :
    migrate_to_current text = .ok migration ↔
      migrate_v1_to_v2 text = .ok migration.serialized ∧ migration.migrated = true := by
  have hsteps : ∀ serialized, migrate_steps
    (CURRENT_FORMAT_VERSION - LEGACY_FORMAT_VERSION) LEGACY_FORMAT_VERSION text =
      .ok serialized ↔ migrate_v1_to_v2 text = .ok serialized := by
    intro serialized
    change (migrate_v1_to_v2 text >>= fun current => Except.ok current) = _ ↔ _
    rw [bind_eq_ok_iff]
    simp
  simp only [migrate_to_current, detect_format_version_legacy h, bind_eq_ok_iff, Except.ok.injEq, exists_eq_left',
    reject_if_eq_ok, hsteps]
  constructor
  · rintro ⟨_, _, serialized, hserialized, hmigration⟩
    obtain rfl := Except.ok.inj hmigration
    exact ⟨hserialized, rfl⟩
  · rintro ⟨hserialized, hmigrated⟩
    refine ⟨(), by decide, _, hserialized, congrArg Except.ok ?_⟩
    rw [MigrationResult.mk.injEq, hmigrated]
    exact ⟨rfl, rfl⟩

/-- A legacy document is read as the current document with its records written anew. -/
theorem parse_document_legacy (h : Text.lines text = format_header LEGACY_FORMAT_VERSION :: records) :
    parse_document text = .ok registry ↔ parse_records (rewritten records) = .ok registry := by
  simp only [parse_document, bind_eq_ok_iff, migrate_to_current_legacy h, migrate_v1_to_v2_eq_ok h]
  constructor
  · rintro ⟨migration, ⟨⟨_, hmigrated⟩, _⟩, hparse⟩
    rwa [hmigrated, parse_registry_migrated h] at hparse
  · intro hrecords
    refine ⟨⟨Text.unlines (format_header CURRENT_FORMAT_VERSION :: records), true⟩,
      ⟨⟨⟨registry, hrecords⟩, rfl⟩, rfl⟩, ?_⟩
    rwa [parse_registry_migrated h]

/-- Only the two known headers are accepted. -/
theorem header_of_parse_document (h : parse_document text = .ok registry) :
    (∃ records, Text.lines text = format_header LEGACY_FORMAT_VERSION :: records) ∨
      ∃ records, Text.lines text = format_header CURRENT_FORMAT_VERSION :: records := by
  have hsplit : ∀ {header : String}, (Text.lines text).head? = some header →
      ∃ records, Text.lines text = header :: records := fun hhead =>
    ⟨_, List.eq_cons_of_mem_head? hhead⟩
  simp only [parse_document, migrate_to_current, bind_eq_ok_iff, reject_if_eq_ok] at h
  obtain ⟨migration, ⟨version, _, _, hversion, serialized, hsteps, hmigration⟩, hparse⟩ := h
  obtain rfl := Except.ok.inj hmigration
  obtain rfl | rfl | rfl : version = 0 ∨ version = 1 ∨ version = 2 := by
    simp only [CURRENT_FORMAT_VERSION] at hversion
    omega
  · cases hsteps
  · change (migrate_v1_to_v2 text >>= fun current => migrate_steps 0 2 current) = _ at hsteps
    simp only [migrate_v1_to_v2, bind_eq_ok_iff, reject_if_eq_ok, not_not] at hsteps
    obtain ⟨_, ⟨_, hhead, _⟩, _⟩ := hsteps
    exact .inl (hsplit hhead)
  · obtain rfl := Except.ok.inj hsteps
    simp only [parse_registry, bind_eq_ok_iff, reject_if_eq_ok, not_not] at hparse
    exact .inr (hsplit hparse.choose_spec.1)

/-- Everything that is read may be kept in the file. -/
theorem durable_of_parse_document (h : parse_document text = .ok registry) : Durable registry := by
  obtain ⟨records, hlines⟩ | ⟨records, hlines⟩ := header_of_parse_document h
  · rw [parse_document_legacy hlines] at h
    exact (parse_records_eq_ok h).1
  · rw [parse_document_current hlines] at h
    exact (parse_records_eq_ok h).1

/-- A current document is accepted exactly when the legacy one with the same records is and none of them ends in
a carriage return. -/
theorem parse_document_current_iff (hlegacy : Text.lines text₁ = format_header LEGACY_FORMAT_VERSION :: records)
    (hcurrent : Text.lines text₂ = format_header CURRENT_FORMAT_VERSION :: records) :
    parse_document text₂ = .ok registry ↔
      parse_document text₁ = .ok registry ∧ ∀ line ∈ records, ¬ Text.EndsInReturn line := by
  rw [parse_document_current hcurrent, parse_document_legacy hlegacy]
  constructor
  · intro h
    have hclean : ∀ line ∈ records, ¬ Text.EndsInReturn line := fun line hline hends =>
      (parse_records_eq_ok h).2 line hline (List.mem_of_getLast? hends)
    refine ⟨?_, hclean⟩
    rwa [rewritten, Text.map_strip_return hclean]
  · rintro ⟨h, hclean⟩
    rwa [rewritten, Text.map_strip_return hclean] at h

theorem parse_document_document (hdurable : Durable registry) :
    parse_document (Text.unlines (document registry)) = .ok registry := by
  rw [parse_document_current (lines_document registry), ← parse_registry_of_lines (lines_document registry)]
  exact parse_registry_document hdurable

/-- What may be kept in the file is read back from it. What is read from a file, migrated or not, may be kept and
is then read back as it was. A current document is read as the legacy one with the same records, and an accepted
legacy document as the current one exactly when none of its records ends in a carriage return, which the migration
would take for a part of the line end. No other header is accepted. -/
theorem membership_file_round_trip (registry : MembershipRegistry) (text text₁ text₂ : String) (records : List String) :
    (Durable registry → ∃ saved, serialize_registry registry = .ok saved ∧ parse_registry saved = .ok registry) ∧
    (parse_document text = .ok registry →
      ∃ saved, serialize_registry registry = .ok saved ∧ parse_registry saved = .ok registry ∧
        parse_document saved = .ok registry ∧ (parse_document saved >>= serialize_registry) = .ok saved) ∧
    (Text.lines text₁ = format_header LEGACY_FORMAT_VERSION :: records →
      Text.lines text₂ = format_header CURRENT_FORMAT_VERSION :: records →
        (parse_document text₂ = .ok registry → parse_document text₁ = .ok registry) ∧
        (parse_document text₁ = .ok registry →
          (parse_document text₂ = .ok registry ↔ ∀ line ∈ records, ¬ Text.EndsInReturn line))) ∧
    ((Text.lines text).head? ≠ some (format_header LEGACY_FORMAT_VERSION) →
      (Text.lines text).head? ≠ some (format_header CURRENT_FORMAT_VERSION) →
        ∃ error, parse_document text = .error error) := by
  refine ⟨fun hdurable => ?_, fun h => ?_, fun h₁ h₂ => ?_, fun hlegacy hcurrent => ?_⟩
  · exact ⟨_, serialize_registry_eq hdurable, parse_registry_document hdurable⟩
  · have hdurable := durable_of_parse_document h
    have hreload := parse_document_document hdurable
    refine ⟨_, serialize_registry_eq hdurable, parse_registry_document hdurable, hreload, ?_⟩
    rw [hreload]
    exact serialize_registry_eq hdurable
  · have hiff : parse_document text₂ = .ok registry ↔
        parse_document text₁ = .ok registry ∧ ∀ line ∈ records, ¬ Text.EndsInReturn line :=
      parse_document_current_iff h₁ h₂
    exact ⟨fun h => (hiff.mp h).1, fun h => hiff.trans (and_iff_right h)⟩
  · rw [← toOption_eq_none_iff]
    by_contra hsome
    obtain ⟨registry, hregistry⟩ := Option.ne_none_iff_exists'.mp hsome
    obtain ⟨records, hlines⟩ | ⟨records, hlines⟩ := header_of_parse_document (toOption_eq_some_iff.mp hregistry)
    · exact hlegacy (by rw [hlines]; rfl)
    · exact hcurrent (by rw [hlines]; rfl)

/-- A network whose name is one letter. -/
def lone_network (id : UInt8) : NetworkMembership :=
  { new (.filled id)
      ⟨"a", by simp [is_control_or_bidi, Text.is_control], by decide +kernel, by decide +kernel, by decide +kernel⟩ with
    state := .Member }

def lone_registry : MembershipRegistry := default.remember_network (lone_network 1)

def lone_record : String := "network\t01010101010101010101010101010101\tmember\t61"

/-- The lone network and one with a trusted member and a peer that is neither. -/
def sample_registry : MembershipRegistry :=
  lone_registry.remember_network
    (((lone_network 4).set_peer ⟨.filled 2, true, true⟩).set_peer ⟨.filled 3, false, false⟩)

def sample_records : List String :=
  [lone_record, "network\t04040404040404040404040404040404\tmember\t61",
    "peer\t04040404040404040404040404040404\t02020202020202020202020202020202\t1\t1",
    "peer\t04040404040404040404040404040404\t03030303030303030303030303030303\t0\t0"]

theorem reads_lone_record : Reads .default [lone_record] lone_registry := by
  have hdurable : DurableNetwork (lone_network 1) :=
    ⟨by decide, .inr rfl, by simp [lone_network, new]⟩
  have hrecord : network_lines (lone_network 1) = [lone_record] := by decide +kernel
  exact hrecord ▸ reads_network hdurable rfl

theorem parse_records_sample_records : parse_records sample_records = .ok sample_registry := by
  have hdurable : DurableNetwork
      (((lone_network 4).set_peer ⟨.filled 2, true, true⟩).set_peer ⟨.filled 3, false, false⟩) := by
    refine ⟨by decide, .inr rfl, ?_⟩
    rintro node peer hpeer rfl
    cases hpeer
  have hread : Reads .default ([lone_record] ++ network_lines _) sample_registry :=
    reads_lone_record.append (reads_network hdurable rfl)
  have hrecords : [lone_record] ++ network_lines
      (((lone_network 4).set_peer ⟨.filled 2, true, true⟩).set_peer ⟨.filled 3, false, false⟩) = sample_records := by
    decide +kernel
  exact (hrecords ▸ hread) 2

/-- The document of two networks, under both headers, saved again and under an unknown header. -/
theorem membership_file_round_trip_sample :
    let legacy := Text.unlines (("BLUEROUTE_MEMBERSHIP_V1" :: sample_records).map (· ++ "\r"))
    let current := Text.unlines ("BLUEROUTE_MEMBERSHIP_V2" :: sample_records)
    parse_document legacy = .ok sample_registry ∧ parse_document current = .ok sample_registry ∧
      (∃ saved, serialize_registry sample_registry = .ok saved ∧ parse_registry saved = .ok sample_registry ∧
        parse_document saved = .ok sample_registry ∧ (parse_document saved >>= serialize_registry) = .ok saved) ∧
      ∃ error, parse_document "BLUEROUTE_MEMBERSHIP_V3\n" = .error error := by
  intro legacy current
  have hlegacy : Text.lines legacy = format_header LEGACY_FORMAT_VERSION :: sample_records :=
    (Text.lines_unlines_eq_map (by decide +kernel)).trans (by decide +kernel)
  have hcurrent : Text.lines current = format_header CURRENT_FORMAT_VERSION :: sample_records :=
    Text.lines_unlines (by decide +kernel)
  have hread : parse_document current = .ok sample_registry :=
    (parse_document_current hcurrent).trans parse_records_sample_records
  have htrip := membership_file_round_trip sample_registry current legacy current sample_records
  refine ⟨(htrip.2.2.1 hlegacy hcurrent).1 hread, hread, htrip.2.1 hread, ?_⟩
  exact (membership_file_round_trip sample_registry _ legacy current sample_records).2.2.2
    (by decide +kernel) (by decide +kernel)

/-- A record with a second carriage return before its line end is accepted from a legacy document and refused from
a current one. -/
theorem second_return_splits_versions :
    parse_document ("BLUEROUTE_MEMBERSHIP_V1\n" ++ lone_record ++ "\r\r\n") = .ok lone_registry ∧
      ∃ error, parse_document ("BLUEROUTE_MEMBERSHIP_V2\n" ++ lone_record ++ "\r\r\n") = .error error := by
  have hlegacy : Text.lines ("BLUEROUTE_MEMBERSHIP_V1\n" ++ lone_record ++ "\r\r\n") =
      [format_header LEGACY_FORMAT_VERSION, lone_record ++ "\r"] := by
    decide +kernel
  have hcurrent : Text.lines ("BLUEROUTE_MEMBERSHIP_V2\n" ++ lone_record ++ "\r\r\n") =
      [format_header CURRENT_FORMAT_VERSION, lone_record ++ "\r"] := by
    decide +kernel
  have hrewritten : rewritten [lone_record ++ "\r"] = [lone_record] := by decide +kernel
  constructor
  · rw [parse_document_legacy hlegacy, hrewritten]
    exact reads_lone_record 2
  · rw [← toOption_eq_none_iff, Option.eq_none_iff_forall_not_mem]
    intro registry hregistry
    have hclean := ((parse_document_current_iff hlegacy hcurrent).mp (toOption_eq_some_iff.mp hregistry)).2
    have hends : (lone_record ++ "\r").toList.getLast? = some '\r' := by decide +kernel
    exact hclean _ List.mem_cons_self hends

end Versions

end blueroute_linux.membership_store
