import ZhuoduControl.Menu.LinearCali
import ZhuoduControl.Modbus.MessageThreadProperties
import ZhuoduControl.Modbus.MirrorDecoding
import ZhuoduControl.Modbus.MirrorRuns
import ZhuoduControl.System.CalibrationOrder
import ZhuoduControl.System.SettingDelivery
import ZhuoduControl.Settings.SavedSettings
import ZhuoduControl.Settings.BootConfiguration
import ZhuoduControl.System.SlaveAlive
import ZhuoduControl.Library.Binary32
import ZhuoduControl.System.RelayTest
import ZhuoduControl.Library.Timers
import ZhuoduControl.System.WiperSchedule
import ZhuoduControl.Modbus.FloatWordOrder
import ZhuoduControl.Drivers.Fm24clxx
import ZhuoduControl.Drivers.FramFidelity
import ZhuoduControl.Library.DecimalText
import ZhuoduControl.Library.DottedPath
import ZhuoduControl.Menu.Frame
import ZhuoduControl.Menu.FrameProperties
import ZhuoduControl.Menu.MenuTable
import ZhuoduControl.Menu.Cursor
import ZhuoduControl.Menu.CursorWindow
import ZhuoduControl.Library.StackRun
import ZhuoduControl.Menu.BackStack
import ZhuoduControl.Menu.Editors
import ZhuoduControl.Menu.Pages
import ZhuoduControl.Menu.MenuRuns
import ZhuoduControl.Menu.PasswordGate
import ZhuoduControl.Menu.EditorProperties
import ZhuoduControl.Menu.EditSessions
import ZhuoduControl.Settings.PartialWrites
import ZhuoduControl.Settings.FailedReads
import ZhuoduControl.Library.DecimalReading
import ZhuoduControl.Menu.NumberText
import ZhuoduControl.System.PageSaves
import ZhuoduControl.System.NumberValue
import ZhuoduControl.System.CurrentLoop
import ZhuoduControl.Drivers.Lcd12864
import ZhuoduControl.Menu.NumberBox
import ZhuoduControl.Menu.NumberBoxText
import ZhuoduControl.Menu.NumberBoxSaves
import ZhuoduControl.Menu.BoxPages
import ZhuoduControl.Menu.FocusRules
import ZhuoduControl.System.MenuTables
import ZhuoduControl.Library.BinaryNearest
import ZhuoduControl.Library.DecimalPrefix
import ZhuoduControl.System.UneditedTexts
import ZhuoduControl.Library.RingBuffer
import ZhuoduControl.Drivers.BspButton
import ZhuoduControl.Drivers.Debounce
import ZhuoduControl.Drivers.KeyQueue
import ZhuoduControl.Drivers.KeyEvents
import ZhuoduControl.Modbus.SlaveHistory
import ZhuoduControl.Drivers.LcdStrings
import ZhuoduControl.System.RequestLoops
import ZhuoduControl.System.ShownTemp
import ZhuoduControl.System.IntegerSettings
import ZhuoduControl.Menu.QuietCalls
import ZhuoduControl.System.UneditedBoxes
import ZhuoduControl.Library.Crc
import ZhuoduControl.Library.Service
import ZhuoduControl.Library.MemoryParts
import ZhuoduControl.Library.InsertBefore
import ZhuoduControl.Kernel.Semaphore
import ZhuoduControl.Kernel.Event
import ZhuoduControl.Modbus.Crc
import ZhuoduControl.Modbus.RtuFrame
import ZhuoduControl.Modbus.SlaveRtu
import ZhuoduControl.Modbus.SlaveNode
import ZhuoduControl.Modbus.SlaveLink
import ZhuoduControl.Modbus.Coils
import ZhuoduControl.Modbus.SlaveFunctions
import ZhuoduControl.Modbus.SlaveSafety
import ZhuoduControl.Modbus.SlaveProtocol
import ZhuoduControl.Modbus.SlaveAnswers
import ZhuoduControl.Kernel.Mutex
import ZhuoduControl.Library.Linked
import ZhuoduControl.Queue.MessageNodes
import ZhuoduControl.Library.Ownership
import ZhuoduControl.Queue.MessageRuns
import ZhuoduControl.Menu.SavingBoxes
import ZhuoduControl.Drivers.SerialDevice
