import MealVendor.Lib.Transition
import MealVendor.Lib.History
import MealVendor.Sale.Gate
import MealVendor.Sale.Counters
import MealVendor.Memory.Backup
import MealVendor.Sale.Bill
import MealVendor.Sale.Payment
import MealVendor.Sale.Balance
import MealVendor.Sale.Till
import MealVendor.Stock.Consistent
import MealVendor.Stock.Move
import MealVendor.Stock.Admin
import MealVendor.Stock.Cover
import MealVendor.Delivery.Dispense
import MealVendor.Memory.Outage
import MealVendor.Server.Reply
import MealVendor.Card.RoundTrip
import MealVendor.Card.Replay
import MealVendor.Card.Resend
import MealVendor.Delivery.Lines
import MealVendor.Delivery.Fresh
import MealVendor.Lib.Retry
import MealVendor.Lib.Ring
import MealVendor.Model.Serial
import MealVendor.Model.Szt
import MealVendor.Reader.Deduct
import MealVendor.Sale.Coins
import MealVendor.Sale.Refund
import MealVendor.Screen.Fifo
import MealVendor.Screen.Frames
import MealVendor.Screen.Password
import MealVendor.Screen.Stores
import MealVendor.Errors.Dispatch
import MealVendor.Sale.Stacked
import MealVendor.Sale.Credit
import MealVendor.Sale.Line
import MealVendor.Sale.Confirm
import MealVendor.Reader.Reads
import MealVendor.Reader.Framing
import MealVendor.Server.Lookup
import MealVendor.Card.Delivered
import MealVendor.Card.File
import MealVendor.Card.Scan
import MealVendor.Memory.Flash
import MealVendor.Stock.Failed
import MealVendor.Card.Decode
import MealVendor.Lib.Crc
import MealVendor.Server.Crc
import MealVendor.Delivery.Amounts
import MealVendor.Model.Editor
import MealVendor.Model.Printer
import MealVendor.Sale.Costs
import MealVendor.Stock.Editor
import MealVendor.Sale.Receipt
import MealVendor.Lib.Nor
import MealVendor.Memory.Table
import MealVendor.Server.Request
import MealVendor.Reader.CheckIn
import MealVendor.Screen.CartRun
import MealVendor.Screen.Texts
import MealVendor.Screen.Selection
import MealVendor.Screen.Floors
