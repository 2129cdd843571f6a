import Restaurant.State
import Restaurant.Group
import Restaurant.Receptionist
import Restaurant.Waiter
import Restaurant.System
import Restaurant.Points
import Restaurant.Tokens
import Restaurant.Seating.Invariant
import Restaurant.Seating.GroupStep
import Restaurant.Seating.ReceptionistStep
import Restaurant.Seating.Preserved
import Restaurant.Tables
import Restaurant.Calls
import Restaurant.Policy
import Restaurant.Kitchen.Invariant
import Restaurant.Kitchen.GroupStep
import Restaurant.Kitchen.WaiterStep
import Restaurant.Kitchen.Preserved
import Restaurant.Service
import Restaurant.Kitchen.Order
import Restaurant.Progress.Blocked
import Restaurant.Progress.Deadlock
import Restaurant.Progress.Termination
import Restaurant.Progress.Boundary
