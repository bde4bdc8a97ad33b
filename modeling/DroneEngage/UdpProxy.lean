import DroneEngage.State

/-! The table of UDP proxies, as far as client commands and disconnects touch it.

    A proxy's sockets bind asynchronously; what the proxy module's own timers and socket events do
    to the table in between is left to the environment of a run. -/

namespace DroneEngage
open Js

namespace Server

/-- A configuration report of a proxy: the address is the public host. -/
def proxyConfig (config : Config) (entry : UdpEntry) : Json :=
  let side (port : Val) : Json :=
    ((Json.obj []).setField "address" config.public_host).setField "port" port
  .obj [("socket1", side entry.port1), ("socket2", side entry.port2)]

/-- The report for a name that has no proxy. -/
def noProxyConfig : Json :=
  let side : Json := .obj [("address", .str "0.0.0.0"), ("port", .num "0")]
  .obj [("socket1", side), ("socket2", side)]

/-- `closeUDPSocket`: its callback receives the returned report. -/
def closeUDPSocket (name : Val) : Action Server Json := do
  let s ← Action.get
  let own ← Action.ofExcept (s.activeUdpProxy.hasOwnProperty s.proto name)
  let k ← Action.ofExcept (propKey name)
  match own, s.activeUdpProxy.own? k with
  | true, some entry => do
    Action.modify fun s => { s with activeUdpProxy := s.activeUdpProxy.delete k }
    return (proxyConfig s.config entry).setField "en" (some (.bool false))
  | _, _ => return noProxyConfig.setField "en" (some (.bool false))

/-- `port || 0` -/
def portOrZero (port : Val) : Val := if isTruthy port then port else some (.num "0")

/-- The new entry of `getUDPSocket`, whose proxy is not ready yet. -/
def openUDPSocket (name : Val) (port1 port2 : Val) : Action Server Unit := do
  let k ← Action.ofExcept (propKey name)
  let entry : UdpEntry := { port1 := portOrZero port1, port2 := portOrZero port2, ready := false }
  Action.modify fun s => { s with activeUdpProxy := s.activeUdpProxy.assign s.proto k entry }

/-- The test of `getUDPSocket` whether a request fits the port a proxy has. -/
def portFits (requested current : Val) : Bool :=
  strictEq requested (some (.num "0")) || strictEq current requested

/-- `getUDPSocket`: `some` report when the callback runs at once, `none` when it waits for the
    sockets to bind. -/
def getUDPSocket (name : Val) (socket1 socket2 : Val) : Action Server (Option Json) := do
  let port1 ← Action.ofExcept (readProp "port" socket1)
  let port2 ← Action.ofExcept (readProp "port" socket2)
  let _ ← Action.ofExcept (propKey port1)
  let _ ← Action.ofExcept (propKey port2)
  let s ← Action.get
  let own ← Action.ofExcept (s.activeUdpProxy.hasOwnProperty s.proto name)
  let k ← Action.ofExcept (propKey name)
  match own, s.activeUdpProxy.own? k with
  | true, some entry => do
    if portFits port1 entry.port1 && portFits port2 entry.port2 then
      if entry.ready then
        return some ((proxyConfig s.config entry).setField "en" (some (.bool true)))
      else return none
    else do
      let _ ← closeUDPSocket name
      openUDPSocket name port1 port2
      return none
  | _, _ => do
    openUDPSocket name port1 port2
    return none

end Server

end DroneEngage
