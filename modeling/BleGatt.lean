import BleGatt.AttValue
import BleGatt.Server.Model
import BleGatt.Server.Host
import BleGatt.Server.Tree
import BleGatt.Server.Start
import BleGatt.Server.Gap
import BleGatt.Server.System
import BleGatt.Server.ConnTable
import BleGatt.Server.Rebuild
import BleGatt.Server.Lifetime
import BleGatt.Server.Closed
import BleGatt.Server.Changes
import BleGatt.Server.Lookup
import BleGatt.Server.Handles
import BleGatt.Server.Dispatch
import BleGatt.Server.Notify
import BleGatt.Server.Access
import BleGatt.Client
import BleGatt.Remote.Value
import BleGatt.Remote.Read
import BleGatt.Remote.Write
import BleGatt.Address
import BleGatt.Connect
import BleGatt.Retries
import BleGatt.Remote.Database
