/-
# About -- what the programs call themselves
-/

namespace KeyWatch

set_option autoImplicit false

def version : String := "0.1.0"

def serverName : String := "bucketkv-server"

def clientName : String := "bucketkv-client"

end KeyWatch
